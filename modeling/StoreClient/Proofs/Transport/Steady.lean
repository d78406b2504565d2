import StoreClient.Proofs.Reply.Agreement
import StoreClient.Transport.Buffered
import StoreClient.Transport.Recorder
import StoreClient.Transport.Scripted

/-!
# `StoreClient/Proofs/Transport/Steady.lean` — transports with settled replies

A transport is steady if it is settled what it is going to deliver: certain bytes, and behind them the end
of the stream or one failure (an `Input` says both). In which pieces the bytes come is its own affair,
and so is in which pieces it accepts what is written to it; but it accepts all of it, and a flush never
fails.

There is no formula for "going to deliver". `Steady` is the largest relation between transports and inputs
that every call keeps (`steady_keeps`), and the buffer in front of a transport is added in `Awaits`. **To a
reader, a buffered steady transport and its input are one and the same source** (`coupled_awaits`).
-/

set_option autoImplicit false

namespace StoreClient

open StoreClient.Action

section

variable {τ : Type} [Transport τ]

/-- A relation that the calls on a transport keep: reads take pieces off the front of the input, and its end
comes after its last byte; writes and flushes succeed and leave it alone. -/
structure Keeps (Promise : τ → Input → Prop) : Prop where
  piece : ∀ {t input} (atMost : Nat), Promise t input → input.rest ≠ [] → 0 < atMost →
    ∃ piece rest t', piece ≠ [] ∧ input.rest = piece ++ rest ∧
      Transport.read atMost t = .ok piece t' ∧ Promise t' { input with rest }
  atEnd : ∀ {t} (atMost : Nat), Promise t ⟨[], none⟩ →
    ∃ t', Transport.read atMost t = .ok [] t' ∧ Promise t' ⟨[], none⟩
  failing : ∀ {t e} (atMost : Nat), Promise t ⟨[], some e⟩ →
    ∃ t', Transport.read atMost t = .error e t' ∧ Promise t' ⟨[], some e⟩
  write : ∀ {t input bytes}, Promise t input → bytes ≠ [] →
    ∃ accepted t', 0 < accepted ∧ Transport.write bytes t = .ok accepted t' ∧ Promise t' input
  flush : ∀ {t input}, Promise t input → ∃ t', Transport.flush t = .ok () t' ∧ Promise t' input

/-- The transport is going to deliver the input, and accepts all that is written to it. -/
def Steady (t : τ) (input : Input) : Prop :=
  ∃ Promise : τ → Input → Prop, Keeps Promise ∧ Promise t input

theorem steady_keeps : Keeps (Steady : τ → Input → Prop) where
  piece := by
    intro t input atMost ⟨Promise, hkeeps, h⟩ hne hpos
    obtain ⟨piece, rest, t', hpiece, hrest, hread, h'⟩ := hkeeps.piece atMost h hne hpos
    exact ⟨piece, rest, t', hpiece, hrest, hread, Promise, hkeeps, h'⟩
  atEnd := by
    intro t atMost ⟨Promise, hkeeps, h⟩
    obtain ⟨t', hread, h'⟩ := hkeeps.atEnd atMost h
    exact ⟨t', hread, Promise, hkeeps, h'⟩
  failing := by
    intro t e atMost ⟨Promise, hkeeps, h⟩
    obtain ⟨t', hread, h'⟩ := hkeeps.failing atMost h
    exact ⟨t', hread, Promise, hkeeps, h'⟩
  write := by
    intro t input bytes ⟨Promise, hkeeps, h⟩ hne
    obtain ⟨accepted, t', hpos, hwrite, h'⟩ := hkeeps.write h hne
    exact ⟨accepted, t', hpos, hwrite, Promise, hkeeps, h'⟩
  flush := by
    intro t input ⟨Promise, hkeeps, h⟩
    obtain ⟨t', hflush, h'⟩ := hkeeps.flush h
    exact ⟨t', hflush, Promise, hkeeps, h'⟩

/-! ## Writing -/

theorem Steady.writeAll {t : τ} {input : Input} (h : Steady t input) (bytes : Bytes) :
    ∃ t', Transport.writeAll bytes t = .ok () t' ∧ Steady t' input := by
  induction bytes using Transport.writeAll.induct generalizing t with
  | case1 =>
    refine ⟨t, ?_, h⟩
    rw [Transport.writeAll, pure_apply]
  | case2 b rest ih =>
    obtain ⟨accepted, u, hpos, hwrite, hu⟩ := steady_keeps.write h (List.cons_ne_nil b rest)
    obtain ⟨n, rfl⟩ := Nat.exists_eq_add_of_lt hpos
    rw [Nat.zero_add] at hwrite
    obtain ⟨t', hrest, ht'⟩ := ih n hu
    refine ⟨t', ?_, ht'⟩
    rw [Transport.writeAll, bind_of_ok hwrite]
    exact hrest

theorem Steady.deliver {t : τ} {input : Input} (h : Steady t input) (bytes : Bytes) :
    ∃ t', Transport.deliver bytes t = .ok () t' ∧ Steady t' input := by
  obtain ⟨u, hwrite, hu⟩ := h.writeAll bytes
  obtain ⟨t', hflush, ht'⟩ := steady_keeps.flush hu
  refine ⟨t', ?_, ht'⟩
  unfold Transport.deliver
  rw [bind_of_ok hwrite]
  exact hflush

/-! ## With the buffer in front -/

/-- The buffer and then the transport are going to deliver the input. -/
def Awaits (b : Buffered τ) (input : Input) : Prop :=
  ∃ coming, input.rest = b.buffer ++ coming ∧ Steady b.transport ⟨coming, input.failure⟩

theorem Awaits.deliver {b : Buffered τ} {input : Input} (h : Awaits b input) (bytes : Bytes) :
    ∃ b', Buffered.deliver bytes b = .ok () b' ∧ Awaits b' input := by
  obtain ⟨coming, hrest, hsteady⟩ := h
  obtain ⟨t', hdeliver, hsteady'⟩ := hsteady.deliver bytes
  refine ⟨{ b with transport := t' }, ?_, coming, hrest, hsteady'⟩
  simp only [Buffered.deliver, hdeliver]

theorem coupled_awaits : Coupled (Awaits : Buffered τ → Input → Prop) := by
  intro b input h
  obtain ⟨coming, hrest, hsteady⟩ := h
  obtain ⟨t, buffer⟩ := b
  obtain ⟨rest, failure⟩ := input
  subst hrest
  show Alike _ _ (Buffered.next ⟨t, buffer⟩) _
  unfold Buffered.next
  cases buffer with
  | cons x buffer => exact .returned ⟨coming, rfl, hsteady⟩
  | nil =>
    -- The buffer is empty, so the next byte is the transport's.
    cases coming with
    | nil =>
      cases failure with
      | none =>
        obtain ⟨t', hread, h'⟩ := steady_keeps.atEnd Buffered.capacity hsteady
        simp only [hread]
        exact .returned ⟨[], rfl, h'⟩
      | some e =>
        obtain ⟨t', hread, h'⟩ := steady_keeps.failing Buffered.capacity hsteady
        simp only [hread]
        exact .failed ⟨[], rfl, h'⟩
    | cons x coming =>
      obtain ⟨piece, rest, t', hpiece, hcut, hread, h'⟩ :=
        steady_keeps.piece Buffered.capacity hsteady (List.cons_ne_nil x coming) (by decide)
      cases piece with
      | nil => exact absurd rfl hpiece
      | cons y piece =>
        obtain ⟨rfl, rfl⟩ := List.cons.inj hcut
        simp only [hread]
        exact .returned ⟨rest, rfl, h'⟩

/-! ## Two transports that can be steady -/

theorem Steady.recorded {t : τ} {input : Input} (h : Steady t input) (log : List Event) :
    Steady (⟨t, log⟩ : Recorder τ) input := by
  refine ⟨fun r input => Steady r.transport input, ?_, h⟩
  exact {
    piece := by
      intro r input atMost h hne hpos
      obtain ⟨piece, rest, t', hpiece, hrest, hread, h'⟩ := steady_keeps.piece atMost h hne hpos
      refine ⟨piece, rest, ⟨t', .received piece :: r.log⟩, hpiece, hrest, ?_, h'⟩
      simp only [Transport.read, Recorder.logged, hread]
    atEnd := by
      intro r atMost h
      obtain ⟨t', hread, h'⟩ := steady_keeps.atEnd atMost h
      refine ⟨⟨t', .received [] :: r.log⟩, ?_, h'⟩
      simp only [Transport.read, Recorder.logged, hread]
    failing := by
      intro r e atMost h
      obtain ⟨t', hread, h'⟩ := steady_keeps.failing atMost h
      refine ⟨⟨t', .readFailed e :: r.log⟩, ?_, h'⟩
      simp only [Transport.read, Recorder.logged, hread]
    write := by
      intro r input bytes h hne
      obtain ⟨accepted, t', hpos, hwrite, h'⟩ := steady_keeps.write h hne
      refine ⟨accepted, ⟨t', .sent (bytes.take accepted) :: r.log⟩, hpos, ?_, h'⟩
      simp only [Transport.write, Recorder.logged, hwrite]
    flush := by
      intro r input h
      obtain ⟨t', hflush, h'⟩ := steady_keeps.flush h
      refine ⟨⟨t', .flushed :: r.log⟩, ?_, h'⟩
      simp only [Transport.flush, Recorder.logged, hflush] }

end

namespace Scripted

/-- The script has no failure in it but that of the last read, and every piece has a byte. -/
structure Willing (t : Scripted) : Prop where
  reads : t.readChunk ≠ some 0
  writes : t.writeChunk ≠ some 0
  room : t.writeRoom = none
  flushes : t.flushRoom = none

theorem cut_ne_nil {bytes : Bytes} {bound : Option Nat} (hne : bytes ≠ []) (hbound : bound ≠ some 0) :
    cut bytes bound ≠ [] := by
  cases bound with
  | none => exact hne
  | some n => simpa [cut, hne] using hbound

theorem cut_front (bytes : Bytes) (bound : Option Nat) : cut bytes bound <+: bytes := by
  cases bound with
  | none => exact List.prefix_rfl
  | some n => exact List.take_prefix n bytes

theorem read_of_ne_nil {t : Scripted} {atMost : Nat} (hne : t.replies ≠ [])
    (hchunk : t.readChunk ≠ some 0) (hpos : 0 < atMost) :
    ∃ piece, piece ≠ [] ∧ piece <+: t.replies ∧
      Transport.read atMost t = .ok piece { t with replies := t.replies.drop piece.length } := by
  refine ⟨(cut t.replies t.readChunk).take atMost, ?_, ?_, ?_⟩
  · simp only [ne_eq, List.take_eq_nil_iff, not_or]
    exact ⟨Nat.pos_iff_ne_zero.mp hpos, cut_ne_nil hne hchunk⟩
  · have htake : (cut t.replies t.readChunk).take atMost <+: cut t.replies t.readChunk :=
      List.take_prefix _ _
    exact htake.trans (cut_front _ _)
  · obtain ⟨b, rest, hcons⟩ := List.exists_cons_of_ne_nil hne
    simp only [Transport.read, read, hcons]

theorem steady {t : Scripted} (h : t.Willing) : Steady t ⟨t.replies, t.readEnd⟩ := by
  refine ⟨fun t input => t.Willing ∧ t.replies = input.rest ∧ t.readEnd = input.failure, ?_,
    h, rfl, rfl⟩
  exact {
    piece := by
      intro t input atMost ⟨hw, hrest, hend⟩ hne hpos
      obtain ⟨piece, hpiece, hprefix, hread⟩ := read_of_ne_nil (hrest ▸ hne) hw.reads hpos
      obtain ⟨rest, hcut⟩ := hprefix
      refine ⟨piece, rest, _, hpiece, hrest ▸ hcut.symm, hread, ⟨hw.1, hw.2, hw.3, hw.4⟩, ?_, hend⟩
      show t.replies.drop piece.length = rest
      rw [← hcut, List.drop_left]
    atEnd := by
      intro t atMost ⟨hw, hrest, hend⟩
      refine ⟨t, ?_, hw, hrest, hend⟩
      simp only [Transport.read, read, hrest, hend]
    failing := by
      intro t e atMost ⟨hw, hrest, hend⟩
      refine ⟨t, ?_, hw, hrest, hend⟩
      simp only [Transport.read, read, hrest, hend]
    write := by
      intro t input bytes ⟨hw, hrest, hend⟩ hne
      have hpos : 0 < (cut bytes t.writeChunk).length :=
        List.length_pos_iff.mpr (cut_ne_nil hne hw.writes)
      refine ⟨_, t, hpos, ?_, hw, hrest, hend⟩
      simp only [Transport.write, write, hw.room, cut, Option.map_none]
      rw [← hw.room]
    flush := by
      intro t input ⟨hw, hrest, hend⟩
      refine ⟨t, ?_, hw, hrest, hend⟩
      simp only [Transport.flush, flush, hw.flushes] }

end Scripted

end StoreClient
