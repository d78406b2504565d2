import StoreClient.Proofs.Command.Encoding
import StoreClient.Proofs.Connection.Footprint
import StoreClient.Proofs.Connection.Steady
import StoreClient.Proofs.Session.Turn
import StoreClient.Transport.Scripted

/-!
# `StoreClient/Proofs/Session/Pipelining.lean` — a pipeline changes nothing but the round trips

The same commands can be submitted one by one, or to a pipeline that is then executed. The commands go out
at other times and the replies are read at other times, but if what the remote side is going to send is
settled (`Awaits`), a caller cannot tell the two apart (`pipelined_same_as_plain`): the values are the
same, or the first error is, the bytes that went out are the same, and the replies that were read are
the same.

Both runs are compared with a third thing and not with each other. **What commands are answered with is a
matter of the input and of the shapes alone** (`Connection.answers`), and both runs agree with that.
-/

set_option autoImplicit false

namespace StoreClient

open StoreClient.Action

/-! ## What is left of an input -/

/-- The input is what is left of another one. -/
def Input.Left (start input : Input) : Prop :=
  input.rest <:+ start.rest ∧ input.failure = start.failure

theorem Input.Left.next {start input : Input} (h : Left start input) :
    Ends (Left start) (ByteSource.next input) := by
  obtain ⟨rest, failure⟩ := input
  cases rest with
  | cons b rest => exact ⟨(List.suffix_cons b rest).trans h.1, h.2⟩
  | nil => cases failure <;> exact h

theorem Connection.answers_left {limits : Limits} {start input : Input} (h : Input.Left start input)
    (shapes : List Shape) : Ends (Input.Left start) (answers limits shapes input) := by
  unfold answers
  induction shapes generalizing input with
  | nil => exact h
  | cons shape shapes ih =>
    rw [List.mapM_cons]
    refine Ends.bind ?_ fun value input' h' => Ends.bind (ih h') fun values input'' h'' => h''
    exact Ends.bind (Frame.read_keeps (fun _ h => h.next) limits h) fun f input' h' => h'

/-! ## The two ways -/

namespace Session

section Ways

variable {τ : Type} [Transport τ]

/-- Submits commands one after the other, up to the first failure. -/
def submitAll (pairs : List (Command × Shape)) : Action (Session τ) (List Value) :=
  pairs.mapM fun p => submit p.1 p.2

theorem submitAll_cons (p : Command × Shape) (pairs : List (Command × Shape)) :
    (submitAll (p :: pairs) : Action (Session τ) (List Value)) = do
      let value ← submit p.1 p.2
      let values ← submitAll pairs
      return value :: values := List.mapM_cons

theorem submitAll_normal (pairs : List (Command × Shape)) (c : Connection τ) :
    submitAll pairs (⟨c, .normal⟩ : Session τ) =
      onConnection (Connection.exchangeEach pairs) ⟨c, .normal⟩ := by
  induction pairs generalizing c with
  | nil => rfl
  | cons p pairs ih =>
    have hfirst : submit p.1 p.2 (⟨c, .normal⟩ : Session τ) =
        onConnection (do return p.2.decode (← Connection.exchange p.1)) ⟨c, .normal⟩ := by
      rw [submit_normal, ask_eq, onConnection_bind]
      rfl
    unfold Connection.exchangeEach
    rw [submitAll_cons, List.mapM_cons, onConnection_bind]
    cases hx : (do return p.2.decode (← Connection.exchange p.1) : Action (Connection τ) Value) c with
    | ok value c' =>
      have hon := onConnection_of_ok (s := ⟨c, .normal⟩) hx
      rw [bind_of_ok (hfirst.trans hon), bind_of_ok hon, onConnection_bind]
      exact bind_congr_apply (ih c')
    | error e c' =>
      have hon := onConnection_of_error (s := ⟨c, .normal⟩) hx
      rw [bind_of_error (hfirst.trans hon), bind_of_error hon]

/-- A pipeline takes in what is submitted to it, and nothing else happens. -/
theorem submit_held {c : Connection τ} (husable : c.broken = false) (command : Command) (shape : Shape)
    (queue : List Shape) (outgoing : Bytes) :
    submit command shape (⟨c, .pipeline queue outgoing⟩ : Session τ) =
      .ok .queued ⟨c, .pipeline (queue ++ [shape]) (outgoing ++ command.encode)⟩ := by
  rw [submit_pipeline, if_neg (by simp [husable]), Command.encodeOnto_eq]

theorem submitAll_pipeline {c : Connection τ} (husable : c.broken = false)
    (pairs : List (Command × Shape)) (queue : List Shape) (outgoing : Bytes) :
    submitAll pairs (⟨c, .pipeline queue outgoing⟩ : Session τ) =
      .ok (pairs.map fun _ => .queued)
        ⟨c, .pipeline (queue ++ pairs.map Prod.snd) (outgoing ++ pairs.flatMap fun p => p.1.encode)⟩ := by
  induction pairs generalizing queue outgoing with
  | nil =>
    simp only [List.map_nil, List.flatMap_nil, List.append_nil]
    rfl
  | cons p pairs ih =>
    rw [submitAll_cons, bind_of_ok (submit_held husable p.1 p.2 queue outgoing), bind_of_ok (ih _ _)]
    simp

end Ways

/-! ## The comparison -/

section Comparison

variable {τ : Type} [Transport τ]

/-- How the two ways of running the same commands ended, the plain one first: both returned the same
values, sent the same bytes and left the same input to be read, or both failed with the same error and are
broken. -/
inductive SameEnd (start : Session (Recorder τ)) (input : Input) (bytes : Bytes) :
    EStateM.Result Error (Session (Recorder τ)) (List Value) →
    EStateM.Result Error (Session (Recorder τ)) (List Value) → Prop where
  | returned {values : List Value} {a b : Session (Recorder τ)} {taken rest : Bytes}
      (normal : a.phase = .normal ∧ b.phase = .normal)
      (sent : a.connection.sent = start.connection.sent ++ bytes ∧
        b.connection.sent = start.connection.sent ++ bytes)
      (consumed : input.rest = taken ++ rest)
      (left : Awaits a.connection.stream ⟨rest, input.failure⟩ ∧
        Awaits b.connection.stream ⟨rest, input.failure⟩) :
      SameEnd start input bytes (.ok values a) (.ok values b)
  | failed {e : Error} {a b : Session (Recorder τ)} (normal : a.phase = .normal ∧ b.phase = .normal)
      (broken : a.isBroken = true ∧ b.isBroken = true) :
      SameEnd start input bytes (.error e a) (.error e b)

theorem exchangeEach_sent {pairs : List (Command × Shape)} {c c' : Connection (Recorder τ)}
    {values : List Value} (h : Connection.exchangeEach pairs c = .ok values c') :
    c'.sent = c.sent ++ pairs.flatMap fun p => p.1.encode := by
  induction pairs generalizing c values with
  | nil =>
    cases h
    simp
  | cons p pairs ih =>
    unfold Connection.exchangeEach at h
    rw [List.mapM_cons] at h
    obtain ⟨value, u, hfirst, h⟩ := bind_eq_ok.mp h
    obtain ⟨rest, u', hrest, hpure⟩ := bind_eq_ok.mp h
    cases hpure
    obtain ⟨reply, w, hexchange, hdecode⟩ := bind_eq_ok.mp hfirst
    cases hdecode
    rw [ih hrest, Connection.exchange_sent hexchange, List.flatMap_cons, List.append_assoc]

theorem exchangeAll_sent {outgoing : Bytes} {queue : List Shape} {c c' u : Connection (Recorder τ)}
    {values : List Value} (hwrite : Connection.write outgoing c = .ok () u)
    (h : Connection.exchangeAll outgoing queue c = .ok values c') : c'.sent = c.sent ++ outgoing := by
  obtain ⟨writes, _, hsending, hends⟩ := Connection.exchangeAll_log outgoing queue c
  rw [h] at hends
  obtain ⟨reads, hreads, hlog, _⟩ := hends
  rw [Connection.sent_of_log hreads hlog, (hsending u hwrite).bytesSent]

omit [Transport τ] in
theorem ends_onConnection {α : Type} {P : Connection τ → Prop} {call : Action (Connection τ) α}
    {s : Session τ} (h : Ends P (call s.connection)) :
    Ends (fun t : Session τ => P t.connection) (onConnection call s) := by
  unfold onConnection Action.within
  generalize call s.connection = outcome at h ⊢
  cases outcome <;> exact h

theorem sameEnd_of_facing {limits : Limits} {c : Connection (Recorder τ)} {input : Input}
    (h : Connection.Facing limits c input) (pairs : List (Command × Shape)) :
    SameEnd ⟨c, .normal⟩ input (pairs.flatMap fun p => p.1.encode)
      (onConnection (Connection.exchangeEach pairs) ⟨c, .normal⟩)
      (onConnection
        (Connection.exchangeAll (pairs.flatMap fun p => p.1.encode) (pairs.map Prod.snd))
        ⟨c, .normal⟩) := by
  obtain ⟨u, hwrite, _⟩ := h.write (pairs.flatMap fun p => p.1.encode)
  -- Both ways end as the input says, so they end alike.
  have halike := (Connection.agree_exchangeEach pairs c input h).join
    (Connection.agree_exchangeAll (pairs.flatMap fun p => p.1.encode) (pairs.map Prod.snd) c input h)
    (Connection.answers_left ⟨List.suffix_rfl, rfl⟩ (pairs.map Prod.snd))
  unfold onConnection Action.within
  cases hplain : Connection.exchangeEach pairs c with
  | ok values a =>
    have hsent := exchangeEach_sent hplain
    cases hheld : Connection.exchangeAll (pairs.flatMap fun p => p.1.encode) (pairs.map Prod.snd) c with
    | ok values' b =>
      have hsent' := exchangeAll_sent hwrite hheld
      rw [hplain, hheld] at halike
      cases halike with
      | returned hleft =>
        obtain ⟨⟨rest, failure⟩, ⟨⟨taken, htaken⟩, rfl⟩, ha, hb⟩ := hleft
        exact .returned ⟨rfl, rfl⟩ ⟨hsent, hsent'⟩ htaken.symm ⟨ha.awaits, hb.awaits⟩
    | error e b =>
      rw [hplain, hheld] at halike
      cases halike
  | error e a =>
    cases hheld : Connection.exchangeAll (pairs.flatMap fun p => p.1.encode) (pairs.map Prod.snd) c with
    | ok values' b =>
      rw [hplain, hheld] at halike
      cases halike
    | error e' b =>
      rw [hplain, hheld] at halike
      cases halike with
      | failed hleft =>
        obtain ⟨_, _, ha, hb⟩ := hleft
        exact .failed ⟨rfl, rfl⟩ ⟨ha, hb⟩

/-- The commands were submitted to a pipeline, and `execute` ends as submitting them one by one would have.
To open the pipeline and to submit to it touches nothing of the connection. The execution makes one
delivery, of all commands, or none if there are none, and reads only after that. -/
structure PipelinedLikePlain (s : Session (Recorder τ)) (input : Input)
    (pairs : List (Command × Shape)) (opened filled : Session (Recorder τ)) : Prop where
  opens : beginPipeline s = .ok () opened
  queues : submitAll pairs opened = .ok (pairs.map fun _ => .queued) filled
  silent : opened.connection = s.connection ∧ filled.connection = s.connection
  sameEnd : SameEnd s input (pairs.flatMap fun p => p.1.encode) (submitAll pairs s) (execute filled)
  oneDelivery : Ends (fun t : Session (Recorder τ) => ∃ writes reads, Inward reads ∧
      t.connection.log = reads ++ (writes ++ s.connection.log) ∧
      if pairs = [] then writes = [] else Delivery (pairs.flatMap fun p => p.1.encode) writes)
    (execute filled)

theorem executed_in_one_delivery {limits : Limits} {c : Connection (Recorder τ)} {input : Input}
    (h : Connection.Facing limits c input) (pairs : List (Command × Shape)) :
    Ends (fun t : Session (Recorder τ) => ∃ writes reads, Inward reads ∧
        t.connection.log = reads ++ (writes ++ c.log) ∧
        if pairs = [] then writes = [] else Delivery (pairs.flatMap fun p => p.1.encode) writes)
      (execute ⟨c, .pipeline (pairs.map Prod.snd) (pairs.flatMap fun p => p.1.encode)⟩) := by
  obtain ⟨u, hwrite, _⟩ := h.write (pairs.flatMap fun p => p.1.encode)
  obtain ⟨writes, _, hsending, hends⟩ :=
    Connection.exchangeAll_log (pairs.flatMap fun p => p.1.encode) (pairs.map Prod.snd) c
  rw [execute_pipeline]
  refine (ends_onConnection (s := ⟨c, .normal⟩) hends).imp fun t ⟨reads, hreads, hlog, _⟩ => ?_
  refine ⟨writes, reads, hreads, hlog, ?_⟩
  have hall := hsending u hwrite
  unfold Connection.Sending at hall
  simpa only [Command.flatMap_encode_eq_nil_iff] using hall

/-- **A pipeline changes nothing but the round trips.** In a usable session outside a batch, over a stream
of which it is settled what it is going to deliver and which accepts all that is written to it, any
commands can be submitted to a pipeline as well as one by one. -/
theorem pipelined_same_as_plain {s : Session (Recorder τ)} {input : Input} (normal : s.phase = .normal)
    (usable : s.isBroken = false) (awaits : Awaits s.connection.stream input)
    (pairs : List (Command × Shape)) :
    ∃ opened filled, PipelinedLikePlain s input pairs opened filled := by
  obtain ⟨c, phase⟩ := s
  subst normal
  have hfacing : Connection.Facing c.limits c input := ⟨usable, rfl, awaits⟩
  refine ⟨⟨c, .pipeline [] []⟩,
    ⟨c, .pipeline (pairs.map Prod.snd) (pairs.flatMap fun p => p.1.encode)⟩, ?_⟩
  exact {
    opens := rfl
    queues := submitAll_pipeline usable pairs [] []
    silent := ⟨rfl, rfl⟩
    sameEnd := by
      rw [submitAll_normal, execute_pipeline]
      exact sameEnd_of_facing hfacing pairs
    oneDelivery := executed_in_one_delivery hfacing pairs }

/-- A remote side that answers three commands, one of them with an error, and has more to say. -/
def chatty : Scripted :=
  { replies := Bytes.ofAscii "+PONG\r\n-ERR\r\n*2\r\n$1\r\na\r\n$-1\r\n:7", readChunk := some 3,
    writeChunk := some 5, flushFailure := .closed }

/-- Three commands, the last of which carries its keys in the shape of its reply. -/
def threeCommands : List (Command × Shape) :=
  [(.ofKeyword "PING", .line), (.ofKeyword "LLEN", .integer),
    ((Command.ofKeyword "MGET").args [[97], [98]], .valuesOf [[97], [98]])]

theorem pipelined_same_as_plain_chatty :
    (fresh chatty {}).phase = .normal ∧ (fresh chatty {}).isBroken = false ∧
      Awaits (fresh chatty {}).connection.stream ⟨chatty.replies, none⟩ ∧
      ∃ opened filled,
        PipelinedLikePlain (fresh chatty {}) ⟨chatty.replies, none⟩ threeCommands opened filled := by
  have hwilling : chatty.Willing := ⟨by decide, by decide, rfl, rfl⟩
  have hawaits : Awaits (fresh chatty {}).connection.stream ⟨chatty.replies, none⟩ :=
    ⟨chatty.replies, rfl, (Scripted.steady hwilling).recorded []⟩
  exact ⟨rfl, rfl, hawaits, pipelined_same_as_plain rfl rfl hawaits threeCommands⟩

end Comparison

end Session

end StoreClient
