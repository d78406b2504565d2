import StoreClient.Proofs.Action
import StoreClient.Source

/-!
# `StoreClient/Proofs/Source.lean` — which bytes a reader has taken

What a reader took off a stream is not written down anywhere: it is the difference between the source
before and the source after. `Delivers s p t` is that difference as a relation — **reading the bytes `p`,
one at a time, leads from `s` to `t`** — and it is the only thing that the statements about readers say
about the stream under them. So they hold over any source, and a plain string of bytes (`Input`) is the
case in which the relation is concatenation (`Delivers.input_iff`).

The two loops of `StoreClient/Source.lean` are characterized by it: `pullLine` stops at a line feed
after exactly the bytes up to it, `pullExactly` after exactly so many bytes. Both are equivalences, since
a reader has to be shown to accept whatever it should as much as to accept nothing else.
-/

set_option autoImplicit false

namespace StoreClient

open StoreClient.Action

/-- Reading the bytes `p` leads from one state of a source to another. -/
inductive Delivers {σ : Type} [ByteSource σ] : σ → Bytes → σ → Prop where
  | nothing (s : σ) : Delivers s [] s
  | byte {s t u : σ} {b : UInt8} {p : Bytes} (first : ByteSource.next s = .ok (some b) t)
      (rest : Delivers t p u) : Delivers s (b :: p) u

namespace Delivers

section Any

variable {σ : Type} [ByteSource σ] {s t u : σ} {p q : Bytes}

theorem nil_iff : Delivers s [] t ↔ t = s := by
  refine ⟨?_, ?_⟩
  · intro h
    cases h
    rfl
  · intro h
    subst h
    exact .nothing t

theorem cons_iff {b : UInt8} :
    Delivers s (b :: p) u ↔ ∃ t, ByteSource.next s = .ok (some b) t ∧ Delivers t p u := by
  refine ⟨?_, ?_⟩
  · intro h
    cases h with
    | byte first rest => exact ⟨_, first, rest⟩
  · intro h
    obtain ⟨t, first, rest⟩ := h
    exact .byte first rest

theorem singleton_iff {b : UInt8} : Delivers s [b] t ↔ ByteSource.next s = .ok (some b) t := by
  rw [cons_iff]
  refine ⟨?_, ?_⟩
  · intro h
    obtain ⟨u, first, rest⟩ := h
    rw [nil_iff.mp rest]
    exact first
  · intro first
    exact ⟨t, first, .nothing t⟩

theorem append_iff : Delivers s (p ++ q) u ↔ ∃ t, Delivers s p t ∧ Delivers t q u := by
  induction p generalizing s with
  | nil =>
    refine ⟨?_, ?_⟩
    · intro h
      exact ⟨s, .nothing s, h⟩
    · intro h
      obtain ⟨t, h, hq⟩ := h
      rw [nil_iff.mp h] at hq
      exact hq
  | cons b p ih =>
    refine ⟨?_, ?_⟩
    · intro h
      obtain ⟨t, first, rest⟩ := cons_iff.mp h
      obtain ⟨v, hp, hq⟩ := ih.mp rest
      exact ⟨v, .byte first hp, hq⟩
    · intro h
      obtain ⟨v, hp, hq⟩ := h
      obtain ⟨t, first, rest⟩ := cons_iff.mp hp
      exact .byte first (ih.mpr ⟨v, rest, hq⟩)

theorem trans (hp : Delivers s p t) (hq : Delivers t q u) : Delivers s (p ++ q) u :=
  append_iff.mpr ⟨t, hp, hq⟩

end Any

/-- **Over bytes that are all there, delivery is concatenation**: what was read and what is left make
up what there was, and what comes behind the last byte does not change. -/
theorem input_iff {s t : Input} {p : Bytes} :
    Delivers s p t ↔ s.rest = p ++ t.rest ∧ t.failure = s.failure := by
  induction p generalizing s with
  | nil =>
    rw [nil_iff]
    obtain ⟨rest, failure⟩ := s
    obtain ⟨rest', failure'⟩ := t
    simp [eq_comm]
  | cons b p ih =>
    rw [cons_iff]
    obtain ⟨rest, failure⟩ := s
    cases rest with
    | nil =>
      -- No byte is left: the next read is the end or the failure, never a byte.
      cases failure <;> simp [ByteSource.next]
    | cons c rest =>
      refine ⟨?_, ?_⟩
      · intro h
        obtain ⟨u, first, hrest⟩ := h
        cases first
        obtain ⟨hs, hf⟩ := ih.mp hrest
        exact ⟨congrArg (b :: ·) hs, hf⟩
      · intro h
        obtain ⟨hs, hf⟩ := h
        obtain ⟨rfl, hrest⟩ := List.cons.inj hs
        exact ⟨⟨rest, failure⟩, rfl, ih.mpr ⟨hrest, hf⟩⟩

end Delivers

/-! ## The two loops -/

section Loops

variable {σ : Type} [ByteSource σ]

/-- Bytes without a line feed are passed over, and take up room. -/
theorem pullLine_passes {p : Bytes} (clean : Bytes.lf ∉ p) (room : Nat) (seen : Bytes) {s t : σ}
    (hdel : Delivers s p t) :
    pullLine (p.length + room) seen s = pullLine room (p.reverse ++ seen) t := by
  induction p generalizing seen s with
  | nil =>
    rw [Delivers.nil_iff.mp hdel, List.length_nil, Nat.zero_add]
    rfl
  | cons b p ih =>
    obtain ⟨u, first, rest⟩ := Delivers.cons_iff.mp hdel
    simp only [List.mem_cons, not_or] at clean
    rw [List.length_cons, Nat.add_right_comm, pullLine, bind_of_ok first]
    simp only [if_neg fun hq : b = Bytes.lf => clean.1 hq.symm]
    rw [ih clean.2 (b :: seen) rest]
    simp

/-- **`pullLine` stops at the first line feed, and only within its bound.** Both directions, so that a
line whose line feed is the last byte within the bound is found. -/
theorem pullLine_eq_lineFeed {room : Nat} {seen found : Bytes} {s t : σ} :
    pullLine room seen s = .ok (found, .lineFeed) t ↔
      ∃ p, Bytes.lf ∉ p ∧ p.length < room ∧ Delivers s (p ++ [Bytes.lf]) t ∧
        found = Bytes.lf :: p.reverse ++ seen := by
  refine ⟨?_, ?_⟩
  · intro h
    induction room generalizing seen s with
    | zero => simp [pullLine] at h
    | succ room ih =>
      rw [pullLine, bind_eq_ok] at h
      obtain ⟨byte?, u, first, h⟩ := h
      cases byte? with
      | none => simp at h
      | some b =>
        by_cases hb : b = Bytes.lf
        · subst hb
          simp only [if_pos, pure_apply] at h
          cases h
          exact ⟨[], by simp, by simp, Delivers.singleton_iff.mpr first, rfl⟩
        · simp only [if_neg hb] at h
          obtain ⟨p, hlf, hroom, hdel, rfl⟩ := ih h
          refine ⟨b :: p, ?_, by simpa using hroom, .byte first hdel, by simp⟩
          simp only [List.mem_cons, not_or]
          exact ⟨fun hq => hb hq.symm, hlf⟩
  · intro h
    obtain ⟨p, hlf, hroom, hdel, rfl⟩ := h
    obtain ⟨u, hp, hfeed⟩ := Delivers.append_iff.mp hdel
    obtain ⟨left, rfl⟩ := Nat.exists_eq_add_of_lt hroom
    rw [Nat.add_assoc, pullLine_passes hlf (left + 1) seen hp, pullLine,
      bind_of_ok (Delivers.singleton_iff.mp hfeed)]
    rfl

theorem pullExactly_eq_ok {count : Nat} {seen found : Bytes} {s t : σ} :
    pullExactly count seen s = .ok found t ↔
      ∃ p, p.length = count ∧ Delivers s p t ∧ found = p.reverse ++ seen := by
  induction count generalizing seen s with
  | zero =>
    simp only [pullExactly, pure_apply, List.length_eq_zero_iff]
    refine ⟨?_, ?_⟩
    · intro h
      cases h
      exact ⟨[], rfl, .nothing _, rfl⟩
    · intro h
      obtain ⟨p, rfl, hdel, rfl⟩ := h
      rw [Delivers.nil_iff.mp hdel]
  | succ count ih =>
    rw [pullExactly, bind_eq_ok]
    refine ⟨?_, ?_⟩
    · intro h
      obtain ⟨byte?, u, first, h⟩ := h
      cases byte? with
      | none => simp at h
      | some b =>
        obtain ⟨p, hlen, hdel, rfl⟩ := ih.mp h
        exact ⟨b :: p, by simp [hlen], .byte first hdel, by simp⟩
    · intro h
      obtain ⟨p, hlen, hdel, rfl⟩ := h
      cases p with
      | nil => simp at hlen
      | cons b p =>
        obtain ⟨u, first, hrest⟩ := Delivers.cons_iff.mp hdel
        exact ⟨some b, u, first, ih.mpr ⟨p, by simpa using hlen, hrest, by simp⟩⟩

end Loops

end StoreClient
