import StoreClient.Proofs.Connection.PartialWrite
import StoreClient.Proofs.Request.Arguments
import StoreClient.Proofs.Session.Ledger

/-!
# `StoreClient/Proofs/Session/PartialWrite.lean` — nothing follows a command that was cut short

A command can be cut short anywhere: between two bytes of an argument, between two commands of a pipeline,
or behind its last byte, when it is flushed. Whatever came next would be read by the remote side as the rest
of that command, or as a command where an argument was meant. So nothing comes next: **all that ever goes
out is a front of the commands that the session set out to send** (`sent_front_of_attempts`), and if no
write fails it is all of them.

Which commands those are is told by the ledger (`Ledger.follow`), which takes in a command when a call on a
usable session sets out to send it, and does not ask what came of that. A command that waits in a pipeline is
taken in when the pipeline is executed, and never if it is dropped.

While the session is usable the ledger and the stream have the same bytes (`InStep`). So there is one call to
look at, the one that breaks the session (`Turn.front`); after it neither the ledger nor the stream gains
anything.
-/

set_option autoImplicit false

namespace StoreClient

open Connection

theorem Ledger.bytes_post {l : Ledger} {mode : Mode} {call : Call} {outcome : Except Error Answer}
    {command : Command} (sends : call.command? mode = some command) :
    (l.post mode call outcome).bytes = l.bytes ++ command.encode := by
  rw [Ledger.post_of_sends sends, Ledger.bytes_append, List.flatMap_singleton]

namespace Session

variable {τ : Type} [Transport τ] {limits : Limits} {l : Ledger} {call : Call}
  {outcome : Except Error Answer}

/-! ## The call that breaks a session -/

theorem Turn.front {s s' : Session (Recorder τ)} (h : Turn s call outcome s')
    (hwaiting : Waiting s.phase l.held) (usable : s.isBroken = false) (broken : s'.isBroken = true) :
    ∃ bytes, (l.post s.mode call outcome).bytes = l.bytes ++ bytes ∧
      Connection.SentFront bytes s.connection s'.connection := by
  cases h with
  | @unanswered c c' phase _ command e sends failed =>
    have hfront := exchange_front usable command
    rw [failed] at hfront
    exact ⟨command.encode, Ledger.bytes_post sends, hfront⟩
  | @stranded c c' queue command shape e failed =>
    have hfront := exchange_front usable command
    rw [failed] at hfront
    exact ⟨command.encode, Ledger.bytes_post rfl, hfront⟩
  | @collapsed c c' queue outgoing e failed =>
    have hfront := exchangeAll_front usable outgoing queue
    rw [failed] at hfront
    -- The ledger has the commands of the pipeline, and the session has their bytes.
    refine ⟨outgoing, ?_, hfront⟩
    show (⟨l.log ++ Ledger.settle l.held [], []⟩ : Ledger).bytes = _
    rw [Ledger.bytes_append, Ledger.settle_bytes, hwaiting.2]
  | refused broken' => cases usable.symm.trans broken'
  | answered sends exchanged =>
    have hsame := ((tracked_exchange _).ok _ _ _ exchanged).1
    cases (hsame.trans usable).symm.trans broken
  | executed exchanged =>
    have hsame := ((tracked_exchangeAll _ _).ok _ _ _ exchanged).1
    cases (hsame.trans usable).symm.trans broken
  | _ => cases usable.symm.trans broken

/-! ## The stream and the ledger after any calls -/

/-- The stream has a front of the bytes of the ledger. -/
structure OnWire (limits : Limits) (s : Session (Recorder τ)) (l : Ledger) : Prop where
  settled : Settled s
  inStep : s.isBroken = false → InStep limits s l
  front : s.connection.sent <+: l.bytes
  whole : (∀ e ∈ s.connection.log, e.isWriteFault = false) → s.connection.sent = l.bytes

omit [Transport τ] in
theorem InStep.sent {s : Session (Recorder τ)} (h : InStep limits s l) :
    s.connection.sent = l.bytes := by
  obtain ⟨_, _, replies, _, hpassed⟩ := h
  exact hpassed.sent

omit [Transport τ] in
theorem OnWire.of_inStep {s : Session (Recorder τ)} (settled : Settled s) (h : InStep limits s l) :
    OnWire limits s l := by
  have hsent := InStep.sent h
  exact ⟨settled, fun _ => h, hsent ▸ List.prefix_rfl, fun _ => hsent⟩

theorem OnWire.turn {s s' : Session (Recorder τ)} (h : OnWire limits s l)
    (hturn : Turn s call outcome s') : OnWire limits s' (l.enter s call outcome) := by
  have hsettled := hturn.settled h.settled
  cases hs : s.isBroken with
  | true =>
    -- A broken session sends nothing, and the ledger knows that.
    obtain ⟨_, hsame⟩ := hturn.when_broken hs h.settled
    have hstill : s'.isBroken = true := hturn.isBroken_iff.mpr (.inl hs)
    rw [Ledger.enter, if_pos hs]
    refine ⟨hsettled, ?_, by rw [hsame]; exact h.front, by rw [hsame]; exact h.whole⟩
    intro usable
    cases usable.symm.trans hstill
  | false =>
    have hinStep := h.inStep hs
    cases hs' : s'.isBroken with
    | false => exact .of_inStep hsettled (hinStep.turn hturn hs')
    | true =>
      have hsent := InStep.sent hinStep
      rw [Ledger.enter_of_usable hs]
      obtain ⟨bytes, hbytes, hfront⟩ := hturn.front hinStep.waiting hs hs'
      refine ⟨hsettled, ?_, ?_, ?_⟩
      · intro usable
        cases usable.symm.trans hs'
      · obtain ⟨p, hp, hnow⟩ := hfront.front
        rw [hbytes, ← hsent, show s'.connection.sent = s.connection.sent ++ p from hnow]
        exact (List.prefix_append_right_inj _).mpr hp
      · intro hnone
        rw [hbytes, ← hsent]
        exact hfront.whole hnone

theorem OnWire.run {s : Session (Recorder τ)} (h : OnWire limits s l) (calls : List Call) :
    OnWire limits (s.run calls).2 (l.follow s calls) := by
  induction calls generalizing s l with
  | nil => exact h
  | cons call calls ih => exact ih (h.turn (turn_of_step s call))

/-! ## Calls that do not reach the stream -/

/-- The error turns a command away without having sent it. -/
def TurnsAway (e : Error) : Prop :=
  e = .broken ∨ ∃ active requested, e = .modeConflict active requested

theorem TurnsAway.not_of_stream {e : Error} (h : TurnsAway e) : ¬ Frame.Refusal e := by
  rintro (⟨failure, rfl⟩ | ⟨fault, rfl⟩) <;> simp [TurnsAway] at h

theorem TurnsAway.not_ofReply {e : Error} (h : TurnsAway e) : ¬ e.OfReply := by
  rintro (⟨reply, rfl⟩ | ⟨reason, rfl⟩) <;> simp [TurnsAway] at h

theorem Turn.away {s s' : Session τ} {e : Error} (h : Turn s call (.error e) s') (hs : Settled s)
    (he : TurnsAway e) : s'.connection = s.connection := by
  cases hb : s.isBroken with
  | true => exact (h.when_broken hb hs).2
  | false =>
    -- On a usable session an error that comes of an exchange blames the stream or the reply.
    generalize hout : (Except.error e : Except Error Answer) = outcome at h
    cases h with
    | conflict batching opens => rfl
    | refused broken => rfl
    | answered sends exchanged => exact absurd (Phase.conclude_ofReply sends hout.symm) he.not_ofReply
    | unanswered sends failed =>
      cases hout
      exact absurd (blamesStream_exchange _ _ _ _ hb failed) he.not_of_stream
    | stranded failed =>
      cases hout
      exact absurd (blamesStream_exchange _ _ _ _ hb failed) he.not_of_stream
    | collapsed failed =>
      cases hout
      exact absurd (blamesStream_exchangeAll _ _ _ _ _ hb failed) he.not_of_stream
    | _ => cases hout

/-- A pipeline that is not executed leaves the connection alone. -/
theorem Turn.waits {s s' : Session τ} (h : Turn s call outcome s') (hmode : s.mode = .pipeline)
    (hcall : call ≠ .execute) : s'.connection = s.connection := by
  have hnone : call.command? s.mode = none := by
    rw [hmode]
    exact call.command?_pipeline
  cases h with
  | answered sends exchanged => cases hnone.symm.trans sends
  | unanswered sends failed => cases hnone.symm.trans sends
  | stranded failed => cases hmode
  | executed exchanged => exact absurd rfl hcall
  | collapsed failed => exact absurd rfl hcall
  | _ => rfl

/-! ## What the remote side was given -/

/-- What went out, compared with the commands that the session set out to send, and the calls that add
nothing to either. -/
structure NothingBehindACut (s : Session (Recorder τ)) (l : Ledger) : Prop where
  front : s.connection.sent <+: l.bytes
  whole : (∀ e ∈ s.connection.log, e.isWriteFault = false) → s.connection.sent = l.bytes
  usable : s.isBroken = false → s.connection.sent = l.bytes
  waits : s.mode = .pipeline → ∀ call, call ≠ .execute → (s.step call).2.connection = s.connection
  turnedAway : ∀ call e, (s.step call).1 = .error e → TurnsAway e →
    (s.step call).2.connection = s.connection
  unfit : ∀ (call : KeyedCall) fault s', attempt call.request s = .error (.invalidArgument fault) s' ↔
    call.given.AtFault ∧ fault = call.given.fault ∧ s' = s

/-- **Nothing follows a command that was cut short.** After any calls from the start, over any transport: the
bytes that went out are a front of the commands that the session set out to send, in order, and all of
them unless a write failed. A command that waits in a pipeline and one that is turned away leave the stream
as it is, and a call over several keys whose arguments are at fault leaves the whole session as it is. -/
theorem sent_front_of_attempts (transport : τ) (limits : Limits) (calls : List Call) :
    NothingBehindACut ((fresh transport limits).run calls).2
      (Ledger.follow {} (fresh transport limits) calls) := by
  have hsettled : Settled (fresh transport limits) := by
    intro hbroken
    cases hbroken
  have hstart : OnWire limits (fresh transport limits) {} :=
    .of_inStep hsettled ⟨rfl, rfl, [], .nil, rfl, rfl⟩
  have hrun := hstart.run calls
  exact {
    front := hrun.front
    whole := hrun.whole
    usable := fun usable => InStep.sent (hrun.inStep usable)
    waits := fun hmode call hcall => (turn_of_step _ call).waits hmode hcall
    turnedAway := by
      intro call e he haway
      have hturn := turn_of_step ((fresh transport limits).run calls).2 call
      rw [he] at hturn
      exact hturn.away hrun.settled haway
    unfit := fun call => attempt_eq_invalidArgument_iff call _ }

end Session

end StoreClient
