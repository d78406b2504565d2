import StoreClient.Proofs.Connection.Footprint
import StoreClient.Proofs.Connection.Steady

/-!
# `StoreClient/Proofs/Connection/Pieces.lean` — two connections that differ in how bytes are cut

Two streams may be going to deliver the same bytes in other pieces, and may accept what is written to them
in other pieces. `Matching` relates two watched streams that differ in nothing else: what is still to be
read is the same, and so are the bytes that went out and the number of flushes. **The next byte and the next
delivery keep them matching** (`coupled_matching`, `agree_deliver`), so every call on the two connections
ends alike.

The buffers need not be equal. One stream may have delivered ahead what the other still holds, and what
matches is what comes out of buffer and stream together.
-/

set_option autoImplicit false

namespace StoreClient

open StoreClient.Action

/-! ## What went out, by the log -/

theorem Inward.flushes {events : List Event} (h : Inward events) :
    events.countP Event.isFlush = 0 := by
  rw [List.countP_eq_zero]
  intro e he
  simpa using (Bool.or_eq_false_iff.mp (h e he)).2

theorem Delivery.flushes {bytes : Bytes} {events : List Event} (h : Delivery bytes events) :
    events.countP Event.isFlush = 1 := by
  obtain ⟨pieces, _, rfl⟩ := h
  simp [List.countP_cons, List.countP_eq_zero, Event.isFlush]

section

variable {τ : Type}

theorem ReadSince.sent {r : Recorder τ} {b : Buffered (Recorder τ)} (h : ReadSince r.log b) :
    b.transport.sent = r.sent := by
  obtain ⟨reads, hreads, hlog⟩ := h
  simp [Recorder.sent, hlog, hreads.bytesSent]

theorem ReadSince.flushes {r : Recorder τ} {b : Buffered (Recorder τ)} (h : ReadSince r.log b) :
    b.transport.flushes = r.flushes := by
  obtain ⟨reads, hreads, hlog⟩ := h
  simp [Recorder.flushes, hlog, hreads.flushes]

theorem Recorder.deliver_flushes [Transport τ] {bytes : Bytes} {r r' : Recorder τ}
    (h : Transport.deliver bytes r = .ok () r') : r'.flushes = r.flushes + 1 := by
  obtain ⟨events, hevents, hlog⟩ := Recorder.deliver_log_of_ok h
  simp [Recorder.flushes, hlog, hevents.flushes, Nat.add_comm]

end

/-! ## The streams -/

section Streams

variable {τ τ' : Type} [Transport τ] [Transport τ']

/-- Two streams with the same input before them and the same bytes behind them. -/
structure Matching (b : Buffered (Recorder τ)) (b' : Buffered (Recorder τ')) : Prop where
  coming : ∃ input, Awaits b input ∧ Awaits b' input
  sent : b.transport.sent = b'.transport.sent
  flushes : b.transport.flushes = b'.transport.flushes

theorem Matching.read {b b₁ : Buffered (Recorder τ)} {b' b₁' : Buffered (Recorder τ')}
    (h : Matching b b') (coming : ∃ input, Awaits b₁ input ∧ Awaits b₁' input)
    (hread : ReadSince b.transport.log b₁) (hread' : ReadSince b'.transport.log b₁') :
    Matching b₁ b₁' where
  coming := coming
  sent := by rw [hread.sent, hread'.sent, h.sent]
  flushes := by rw [hread.flushes, hread'.flushes, h.flushes]

/-- Both have the next byte of the one input that they stand for. -/
theorem coupled_matching :
    Coupled (Matching : Buffered (Recorder τ) → Buffered (Recorder τ') → Prop) := by
  intro b b' h
  obtain ⟨input, hb, hb'⟩ := h.coming
  have hbyte := (coupled_awaits b input hb).join (coupled_awaits b' input hb')
    (.trivial _)
  have hread : Ends (ReadSince b.transport.log) (ByteSource.next b) := (ReadSince.refl b).next
  have hread' : Ends (ReadSince b'.transport.log) (ByteSource.next b') := (ReadSince.refl b').next
  have hsame : ∀ (b₁ : Buffered (Recorder τ)) (b₁' : Buffered (Recorder τ')),
      (∃ input, True ∧ Awaits b₁ input ∧ Awaits b₁' input) ∧
        ReadSince b.transport.log b₁ ∧ ReadSince b'.transport.log b₁' → Matching b₁ b₁' := by
    intro b₁ b₁' ⟨⟨input, _, hawaits⟩, hread, hread'⟩
    exact h.read ⟨input, hawaits⟩ hread hread'
  exact (hbyte.with_ends hread hread').imp hsame hsame

theorem agree_deliver (bytes : Bytes) :
    Agree (Matching : Buffered (Recorder τ) → Buffered (Recorder τ') → Prop) Matching
      (Buffered.deliver bytes) (Buffered.deliver bytes) := by
  intro b b' h
  obtain ⟨input, hb, hb'⟩ := h.coming
  obtain ⟨b₁, hdeliver, hb₁⟩ := hb.deliver bytes
  obtain ⟨b₁', hdeliver', hb₁'⟩ := hb'.deliver bytes
  obtain ⟨r, hr, rfl⟩ := Buffered.deliver_eq_ok.mp hdeliver
  obtain ⟨r', hr', rfl⟩ := Buffered.deliver_eq_ok.mp hdeliver'
  rw [hdeliver, hdeliver']
  refine .returned ⟨⟨input, hb₁, hb₁'⟩, ?_, ?_⟩
  · rw [(Recorder.deliver_eq_ok hr).1, (Recorder.deliver_eq_ok hr').1, h.sent]
  · rw [Recorder.deliver_flushes hr, Recorder.deliver_flushes hr', h.flushes]

end Streams

/-! ## The connections -/

namespace Connection

variable {τ τ' : Type} [Transport τ] [Transport τ']

structure Matching (c : Connection (Recorder τ)) (c' : Connection (Recorder τ')) : Prop where
  stream : StoreClient.Matching c.stream c'.stream
  limits : c.limits = c'.limits
  broken : c.broken = c'.broken

variable {α : Type}

/-- On matching connections the two calls end alike, and leave them matching. -/
abbrev Lockstep (τ τ' : Type) [Transport τ] [Transport τ'] (x : Action (Connection (Recorder τ)) α)
    (y : Action (Connection (Recorder τ')) α) : Prop :=
  Agree Matching Matching x y

/-- The guard looks at the bit and at the error, which are the same on both sides. -/
theorem lockstep_guarded {call : Action (Buffered (Recorder τ)) α} {call' : Action (Buffered (Recorder τ')) α}
    (h : Agree StoreClient.Matching StoreClient.Matching call call') :
    Lockstep τ τ' (guarded call) (guarded call') := by
  intro c c' hc
  unfold guarded
  rw [← hc.broken]
  cases hb : c.broken with
  | true => exact .failed hc
  | false =>
    have hcall := h c.stream c'.stream hc.stream
    simp only [Bool.false_eq_true, if_false]
    generalize call c.stream = outcome at hcall ⊢
    generalize call' c'.stream = outcome' at hcall ⊢
    cases hcall with
    | returned hs => exact .returned ⟨hs, hc.limits, rfl⟩
    | failed hs => exact .failed ⟨hs, hc.limits, rfl⟩

theorem lockstep_write (bytes : Bytes) : Lockstep τ τ' (write bytes) (write bytes) :=
  lockstep_guarded (Agree.ofStream (agree_deliver bytes))

theorem lockstep_readFrame : Lockstep τ τ' readFrame readFrame := by
  intro c c' h
  have hread := lockstep_guarded (Frame.agree_read coupled_matching c.limits) c c' h
  unfold readFrame
  rwa [← h.limits]

theorem lockstep_readReply (shape : Shape) : Lockstep τ τ' (readReply shape) (readReply shape) :=
  lockstep_readFrame.bind fun f => .pure (shape.decode f)

theorem lockstep_exchangeAll (outgoing : Bytes) (queue : List Shape) :
    Lockstep τ τ' (exchangeAll outgoing queue) (exchangeAll outgoing queue) := by
  by_cases hout : outgoing = []
  · rw [hout, exchangeAll_nil, exchangeAll_nil]
    exact .each lockstep_readReply queue
  · rw [exchangeAll_of_ne_nil hout, exchangeAll_of_ne_nil hout]
    exact (lockstep_write outgoing).bind fun _ => .each lockstep_readReply queue

end Connection

end StoreClient
