import StoreClient.Proofs.Connection
import StoreClient.Proofs.Transport.Steady

/-!
# `StoreClient/Proofs/Connection/Steady.lean` — a connection over a steady stream

Over a steady stream nothing can go wrong but the replies. Sending succeeds and changes nothing of what is
going to be read; reading does to the connection what it does to the `Input` that the stream stands for: the
same reply and the same error, and an error breaks the connection. So each call on the connection **agrees
with a call on the input**, in which the sending is left out.

That is enough to tell what commands are answered with when it does not matter when they were sent: the
answers to several commands are those of `answers`, whether the commands went out one by one
(`agree_exchangeEach`) or together (`agree_exchangeAll`).
-/

set_option autoImplicit false

namespace StoreClient

open StoreClient.Action

namespace Connection

variable {τ : Type} [Transport τ] {limits : Limits}

/-- The connection is usable and is going to deliver the input. -/
structure Facing (limits : Limits) (c : Connection τ) (input : Input) : Prop where
  usable : c.broken = false
  limits_eq : c.limits = limits
  awaits : Awaits c.stream input

/-- The connection is broken, and what it would still deliver does not matter any more. -/
def Lost (c : Connection τ) (_ : Input) : Prop :=
  c.broken = true

/-! ## Sending and reading -/

theorem Facing.write {c : Connection τ} {input : Input} (h : Facing limits c input) (bytes : Bytes) :
    ∃ c', Connection.write bytes c = .ok () c' ∧ Facing limits c' input := by
  obtain ⟨stream, hdeliver, hawaits⟩ := h.awaits.deliver bytes
  refine ⟨{ c with stream }, ?_, h.usable, h.limits_eq, hawaits⟩
  exact guarded_eq_ok.mpr ⟨h.usable, stream, ofStream_eq_ok.mpr hdeliver, rfl⟩

theorem agree_write (bytes : Bytes) :
    Agree (Facing limits) Lost (write bytes : Action (Connection τ) Unit) (pure ()) := by
  intro c input h
  obtain ⟨c', hwrite, h'⟩ := h.write bytes
  rw [hwrite]
  exact .returned h'

theorem agree_readFrame :
    Agree (Facing limits) Lost (readFrame : Action (Connection τ) Frame) (Frame.read limits) := by
  intro c input h
  have hread := Frame.agree_read coupled_awaits limits c.stream input h.awaits
  unfold readFrame guarded
  simp only [h.usable, Bool.false_eq_true, if_false, h.limits_eq]
  cases hc : Frame.read limits c.stream with
  | ok f stream =>
    rw [hc] at hread
    generalize Frame.read limits input = outcome at hread
    cases hread with
    | returned hawaits => exact .returned ⟨rfl, rfl, hawaits⟩
  | error e stream =>
    have hfatal : e.isFatal = true := (Frame.read_failsOnlyWith limits _ _ _ hc).isFatal
    rw [hc] at hread
    generalize Frame.read limits input = outcome at hread
    cases hread with
    | failed _ => exact .failed hfatal

/-! ## Commands and their answers -/

/-- Reads one reply off the input and decodes it. -/
def answer (limits : Limits) (shape : Shape) : Action Input Value := do
  return shape.decode (← Frame.read limits)

/-- Reads a reply for each shape off the input. -/
def answers (limits : Limits) (shapes : List Shape) : Action Input (List Value) :=
  shapes.mapM (answer limits)

/-- Sends commands one by one, each when the one before it has been answered. -/
def exchangeEach (pairs : List (Command × Shape)) : Action (Connection τ) (List Value) :=
  pairs.mapM fun p => do return p.2.decode (← exchange p.1)

theorem agree_readReply (shape : Shape) :
    Agree (Facing limits) Lost (readReply shape : Action (Connection τ) Value) (answer limits shape) :=
  agree_readFrame.bind fun f => .pure (shape.decode f)

theorem agree_exchange (command : Command) :
    Agree (Facing limits) Lost (exchange command : Action (Connection τ) Frame) (Frame.read limits) := by
  rw [← pure_bind () fun _ => Frame.read limits]
  exact (agree_write command.encode).bind fun _ => agree_readFrame

theorem agree_exchangeEach (pairs : List (Command × Shape)) :
    Agree (Facing limits) Lost (exchangeEach pairs : Action (Connection τ) (List Value))
      (answers limits (pairs.map Prod.snd)) := by
  have hpair : ∀ p : Command × Shape, Agree (Facing limits) Lost
      (do return p.2.decode (← exchange p.1) : Action (Connection τ) Value) (answer limits p.2) :=
    fun p => (agree_exchange p.1).bind fun f => .pure (p.2.decode f)
  exact Agree.mapM hpair pairs

theorem agree_replies (queue : List Shape) :
    Agree (Facing limits) Lost (queue.mapM readReply : Action (Connection τ) (List Value))
      (answers limits queue) :=
  Agree.each agree_readReply queue

theorem agree_exchangeAll (outgoing : Bytes) (queue : List Shape) :
    Agree (Facing limits) Lost (exchangeAll outgoing queue : Action (Connection τ) (List Value))
      (answers limits queue) := by
  by_cases hout : outgoing = []
  · rw [hout, exchangeAll_nil]
    exact agree_replies queue
  · rw [exchangeAll_of_ne_nil hout, ← pure_bind () fun _ => answers limits queue]
    exact (agree_write outgoing).bind fun _ => agree_replies queue

/-! ## Replies that are there -/

section Answered

variable {α : Type} {xs : List α} {reply : α → Reply}

theorem answers_of_derives (shape : α → Shape) (rest : Bytes) (failure : Option IoError)
    (complete : ∀ x ∈ xs, Derives limits 0 (reply x).bytes (reply x).frame) :
    answers limits (xs.map shape) ⟨(xs.flatMap fun x => (reply x).bytes) ++ rest, failure⟩ =
      .ok (xs.map fun x => (shape x).decode (reply x).frame) ⟨rest, failure⟩ := by
  unfold answers
  induction xs with
  | nil => rfl
  | cons x xs ih =>
    obtain ⟨hhead, htail⟩ := List.forall_mem_cons.mp complete
    have hfirst : answer limits (shape x)
        ⟨(reply x).bytes ++ ((xs.flatMap fun x => (reply x).bytes) ++ rest), failure⟩ =
        .ok ((shape x).decode (reply x).frame) ⟨(xs.flatMap fun x => (reply x).bytes) ++ rest, failure⟩ :=
      bind_of_ok ((Frame.read_input_eq_ok_iff _ failure).mpr hhead)
    rw [List.map_cons, List.mapM_cons, List.flatMap_cons, List.append_assoc, bind_of_ok hfirst,
      bind_of_ok (ih htail)]
    rfl

/-- If the input starts with replies, those are the replies to the commands that are sent next, all
together. -/
theorem Facing.exchangeAll {c : Connection τ} {rest : Bytes} {failure : Option IoError}
    (h : Facing limits c ⟨(xs.flatMap fun x => (reply x).bytes) ++ rest, failure⟩)
    (complete : ∀ x ∈ xs, Derives limits 0 (reply x).bytes (reply x).frame) (outgoing : Bytes)
    (shape : α → Shape) :
    ∃ c', Connection.exchangeAll outgoing (xs.map shape) c =
        .ok (xs.map fun x => (shape x).decode (reply x).frame) c' ∧
      Facing limits c' ⟨rest, failure⟩ := by
  have hanswers := answers_of_derives shape rest failure complete
  exact (agree_exchangeAll outgoing (xs.map shape)).returns h hanswers

end Answered

/-- If the input starts with a reply, that is the reply to the command that is sent next. -/
theorem Facing.exchange {c : Connection τ} {reply : Reply} {rest : Bytes} {failure : Option IoError}
    (h : Facing limits c ⟨reply.bytes ++ rest, failure⟩)
    (hreply : Derives limits 0 reply.bytes reply.frame) (command : Command) :
    ∃ c', Connection.exchange command c = .ok reply.frame c' ∧ Facing limits c' ⟨rest, failure⟩ := by
  have hread := (Frame.read_input_eq_ok_iff rest failure).mpr hreply
  exact (agree_exchange command).returns h hread

end Connection

end StoreClient
