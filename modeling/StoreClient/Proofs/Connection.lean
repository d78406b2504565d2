import StoreClient.Connection
import StoreClient.Proofs.Reply.Reader

/-!
# `StoreClient/Proofs/Connection.lean` — the bit that breaks a connection

`Connection.guarded` is the only way to the stream, and it does two things: it turns every call away from
a broken connection, and it breaks the connection when a call ends in a fatal error. This file says what
that makes of the calls built on it, in properties that pass from the parts of a call to the whole:

* `Tracked`: **the outcome tells the bit.** A call that returns leaves the bit as it was, and a call that
  fails does so fatally and leaves the connection broken — every error that a stream or a reply can cause
  is fatal, so there is no third way.
* `Refused`: on a broken connection the call fails at once with `Error.broken`, and nothing of the
  connection is touched, the stream least of all.

The other way round, a usable connection refuses nothing: if a call on it fails, the stream or what came over it
is to blame (`BlamesStream`).

A session talks to its connection in two ways only: one command and one reply (`exchange`), or several
commands at once and then their replies (`exchangeAll`).
-/

set_option autoImplicit false

namespace StoreClient

open StoreClient.Action

/-! ## Past the buffer -/

namespace Buffered

variable {τ : Type} [Transport τ] {bytes : Bytes} {b b' : Buffered τ}

theorem deliver_eq_ok : deliver bytes b = .ok () b' ↔
    ∃ t, Transport.deliver bytes b.transport = .ok () t ∧ b' = { b with transport := t } := by
  unfold deliver
  cases Transport.deliver bytes b.transport with
  | ok u t => simp [eq_comm]
  | error e t => simp

theorem deliver_eq_error {e : IoError} : deliver bytes b = .error e b' ↔
    ∃ t, Transport.deliver bytes b.transport = .error e t ∧ b' = { b with transport := t } := by
  unfold deliver
  cases Transport.deliver bytes b.transport with
  | ok u t => simp
  | error e' t => simp [eq_comm]

end Buffered

namespace Connection

variable {τ α β : Type}

/-! ## Behind the guard -/

theorem guarded_eq_ok {call : Action (Buffered τ) α} {c c' : Connection τ} {a : α} :
    guarded call c = .ok a c' ↔
      c.broken = false ∧ ∃ stream, call c.stream = .ok a stream ∧ c' = { c with stream } := by
  unfold guarded
  cases hb : c.broken with
  | true => simp
  | false =>
    simp only [Bool.false_eq_true, if_false, true_and]
    cases call c.stream with
    | ok a' stream =>
      refine ⟨?_, ?_⟩
      · intro h
        cases h
        exact ⟨stream, rfl, rfl⟩
      · intro h
        obtain ⟨stream', hcall, rfl⟩ := h
        cases hcall
        rfl
    | error e stream => simp

theorem guarded_eq_error {call : Action (Buffered τ) α} {c c' : Connection τ} {e : Error}
    (hb : c.broken = false) :
    guarded call c = .error e c' ↔
      ∃ stream, call c.stream = .error e stream ∧ c' = { c with stream, broken := e.isFatal } := by
  unfold guarded
  simp only [hb, Bool.false_eq_true, if_false]
  cases call c.stream with
  | ok a stream => simp
  | error e' stream =>
    refine ⟨?_, ?_⟩
    · intro h
      cases h
      exact ⟨stream, rfl, rfl⟩
    · intro h
      obtain ⟨stream', hcall, rfl⟩ := h
      cases hcall
      rfl

/-- On a broken connection the call fails without having been made. -/
def Refused (call : Action (Connection τ) α) : Prop :=
  ∀ c, c.broken = true → call c = .error .broken c

/-- The outcome of the call tells whether the connection is broken after it. The limits are never
changed. -/
structure Tracked (call : Action (Connection τ) α) : Prop where
  ok : ∀ c a c', call c = .ok a c' → c'.broken = c.broken ∧ c'.limits = c.limits
  error : ∀ c e c', call c = .error e c' →
    e.isFatal = true ∧ c'.broken = true ∧ c'.limits = c.limits

theorem refused_guarded (call : Action (Buffered τ) α) : Refused (guarded call) := by
  intro c hb
  unfold guarded
  rw [if_pos hb]

theorem Refused.bind {call : Action (Connection τ) α} (h : Refused call)
    (next : α → Action (Connection τ) β) : Refused (call >>= next) := by
  intro c hb
  exact bind_of_error (h c hb)

theorem tracked_guarded {call : Action (Buffered τ) α}
    (h : FailsOnlyWith (fun e => e.isFatal = true) call) : Tracked (guarded call) := by
  refine ⟨?_, ?_⟩
  · intro c a c' hok
    obtain ⟨_, stream, _, rfl⟩ := guarded_eq_ok.mp hok
    exact ⟨rfl, rfl⟩
  · intro c e c' herr
    cases hb : c.broken with
    | true =>
      -- The refusal is fatal too, and the connection was broken before it.
      rw [refused_guarded call c hb] at herr
      cases herr
      exact ⟨rfl, hb, rfl⟩
    | false =>
      obtain ⟨stream, hcall, rfl⟩ := (guarded_eq_error hb).mp herr
      have hfatal := h _ _ _ hcall
      exact ⟨hfatal, hfatal, rfl⟩

theorem Tracked.pure (a : α) : Tracked (pure a : Action (Connection τ) α) := by
  refine ⟨?_, ?_⟩
  · intro c b c' h
    cases h
    exact ⟨rfl, rfl⟩
  · intro c e c' h
    cases h

theorem Tracked.bind {call : Action (Connection τ) α} {next : α → Action (Connection τ) β}
    (hcall : Tracked call) (hnext : ∀ a, Tracked (next a)) : Tracked (call >>= next) := by
  refine ⟨?_, ?_⟩
  · intro c b c' h
    obtain ⟨a, u, hfirst, hrest⟩ := bind_eq_ok.mp h
    have h₁ := hcall.ok c a u hfirst
    have h₂ := (hnext a).ok u b c' hrest
    exact ⟨h₂.1.trans h₁.1, h₂.2.trans h₁.2⟩
  · intro c e c' h
    rcases bind_eq_error.mp h with hfirst | ⟨a, u, hfirst, hrest⟩
    · exact hcall.error c e c' hfirst
    · have h₁ := hcall.ok c a u hfirst
      have h₂ := (hnext a).error u e c' hrest
      exact ⟨h₂.1, h₂.2.1, h₂.2.2.trans h₁.2⟩

theorem Tracked.mapM {call : β → Action (Connection τ) α} (h : ∀ b, Tracked (call b))
    (bs : List β) : Tracked (bs.mapM call) := by
  induction bs with
  | nil =>
    rw [List.mapM_nil]
    exact .pure []
  | cons b bs ih =>
    rw [List.mapM_cons]
    exact (h b).bind fun a => ih.bind fun as => .pure (a :: as)

/-! ## Writing and reading -/

variable [Transport τ]

theorem tracked_write (bytes : Bytes) : Tracked (write bytes : Action (Connection τ) Unit) :=
  tracked_guarded (.ofStream fun _ => rfl)

theorem refused_write (bytes : Bytes) : Refused (write bytes : Action (Connection τ) Unit) :=
  refused_guarded _

theorem tracked_readFrame : Tracked (readFrame : Action (Connection τ) Frame) := by
  have h : ∀ limits : Limits, Tracked (guarded (Frame.read limits) : Action (Connection τ) Frame) := by
    intro limits
    refine tracked_guarded ?_
    intro s e t he
    exact (Frame.read_failsOnlyWith limits s e t he).isFatal
  refine ⟨?_, ?_⟩
  · intro c f c' hok
    exact (h c.limits).ok c f c' hok
  · intro c e c' herr
    exact (h c.limits).error c e c' herr

theorem refused_readFrame : Refused (readFrame : Action (Connection τ) Frame) := by
  intro c hb
  exact refused_guarded (Frame.read c.limits) c hb

theorem tracked_readReply (shape : Shape) :
    Tracked (readReply shape : Action (Connection τ) Value) :=
  tracked_readFrame.bind fun f => .pure (shape.decode f)

/-! ## The two ways of talking -/

/-- Sends one command and reads one reply. -/
def exchange (command : Command) : Action (Connection τ) Frame := do
  send command
  readFrame

/-- Sends what was held back, if anything, and reads a reply for each shape. -/
def exchangeAll (outgoing : Bytes) (queue : List Shape) : Action (Connection τ) (List Value) := do
  if outgoing ≠ [] then write outgoing
  queue.mapM readReply

theorem tracked_exchange (command : Command) :
    Tracked (exchange command : Action (Connection τ) Frame) :=
  (tracked_write command.encode).bind fun _ => tracked_readFrame

theorem refused_exchange (command : Command) :
    Refused (exchange command : Action (Connection τ) Frame) :=
  (refused_write command.encode).bind _

theorem exchangeAll_nil (queue : List Shape) :
    (exchangeAll [] queue : Action (Connection τ) (List Value)) = queue.mapM readReply := by
  unfold exchangeAll
  rw [if_neg (by simp)]

theorem exchangeAll_of_ne_nil {outgoing : Bytes} (h : outgoing ≠ []) (queue : List Shape) :
    (exchangeAll outgoing queue : Action (Connection τ) (List Value)) =
      (do write outgoing; queue.mapM readReply) := by
  unfold exchangeAll
  rw [if_pos h]

theorem tracked_exchangeAll (outgoing : Bytes) (queue : List Shape) :
    Tracked (exchangeAll outgoing queue : Action (Connection τ) (List Value)) := by
  by_cases h : outgoing = []
  · rw [h, exchangeAll_nil]
    exact .mapM tracked_readReply queue
  · rw [exchangeAll_of_ne_nil h]
    exact (tracked_write outgoing).bind fun _ => Tracked.mapM tracked_readReply queue

/-- With nothing to send and nothing to expect the connection is left alone, broken or not. -/
theorem exchangeAll_nothing (c : Connection τ) : exchangeAll [] [] c = .ok [] c := by
  rw [exchangeAll_nil, List.mapM_nil]
  rfl

/-- A reply to a command can only have come over a connection that is not broken. -/
theorem not_broken_of_exchange {command : Command} {c c' : Connection τ} {f : Frame}
    (h : exchange command c = .ok f c') : c.broken = false := by
  cases hb : c.broken with
  | false => rfl
  | true =>
    rw [refused_exchange command c hb] at h
    cases h

/-! ## What a usable connection fails with

A call is refused with `Error.broken` on a broken connection and on no other. -/

/-- On a usable connection the call fails because of the stream or of what came over it. -/
def BlamesStream (call : Action (Connection τ) α) : Prop :=
  ∀ c e c', c.broken = false → call c = .error e c' → Frame.Refusal e

omit [Transport τ] in
theorem blamesStream_guarded {call : Action (Buffered τ) α} (h : FailsOnlyWith Frame.Refusal call) :
    BlamesStream (guarded call) := by
  intro c e c' usable herr
  obtain ⟨stream, hcall, _⟩ := (guarded_eq_error usable).mp herr
  exact h _ _ _ hcall

omit [Transport τ] in
theorem BlamesStream.pure (a : α) : BlamesStream (pure a : Action (Connection τ) α) := by
  intro c e c' _ h
  cases h

omit [Transport τ] in
/-- A call that returned has left the connection usable for the next one. -/
theorem BlamesStream.bind {call : Action (Connection τ) α} {next : α → Action (Connection τ) β}
    (tracked : Tracked call) (hcall : BlamesStream call) (hnext : ∀ a, BlamesStream (next a)) :
    BlamesStream (call >>= next) := by
  intro c e c' usable h
  rcases bind_eq_error.mp h with hfirst | ⟨a, u, hfirst, hrest⟩
  · exact hcall c e c' usable hfirst
  · have hsame := (tracked.ok c a u hfirst).1
    exact hnext a u e c' (hsame.trans usable) hrest

theorem blamesStream_write (bytes : Bytes) :
    BlamesStream (write bytes : Action (Connection τ) Unit) :=
  blamesStream_guarded (.ofStream fun failure => Or.inl ⟨failure, rfl⟩)

theorem blamesStream_readFrame : BlamesStream (readFrame : Action (Connection τ) Frame) := by
  intro c e c' usable h
  exact blamesStream_guarded (Frame.read_failsOnlyWith c.limits) c e c' usable h

theorem blamesStream_exchange (command : Command) :
    BlamesStream (exchange command : Action (Connection τ) Frame) :=
  (blamesStream_write command.encode).bind (tracked_write _) fun _ => blamesStream_readFrame

theorem blamesStream_replies (queue : List Shape) :
    BlamesStream (queue.mapM readReply : Action (Connection τ) (List Value)) := by
  induction queue with
  | nil =>
    rw [List.mapM_nil]
    exact .pure []
  | cons shape queue ih =>
    have hfirst : BlamesStream (readReply shape : Action (Connection τ) Value) :=
      blamesStream_readFrame.bind tracked_readFrame fun f => .pure (shape.decode f)
    rw [List.mapM_cons]
    refine hfirst.bind (tracked_readReply shape) fun value => ?_
    exact ih.bind (.mapM tracked_readReply queue) fun values => .pure (value :: values)

theorem blamesStream_exchangeAll (outgoing : Bytes) (queue : List Shape) :
    BlamesStream (exchangeAll outgoing queue : Action (Connection τ) (List Value)) := by
  by_cases h : outgoing = []
  · rw [h, exchangeAll_nil]
    exact blamesStream_replies queue
  · rw [exchangeAll_of_ne_nil h]
    exact (blamesStream_write outgoing).bind (tracked_write _) fun _ => blamesStream_replies queue

end Connection

end StoreClient
