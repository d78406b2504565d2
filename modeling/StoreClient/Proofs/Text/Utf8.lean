import StoreClient.Text.Utf8

/-!
# `StoreClient/Proofs/Text/Utf8.lean` — the ASCII characters of a text are the ASCII bytes of its source

Bytes that are no UTF-8 are read as text all the same, and what could go wrong is that a character appears
that no byte stands for, or that one is swallowed by the sequence it spoils. Neither happens to ASCII: **a text
has each ASCII character as often as its source has the byte** (`count_lossy`), wherever the ill-formed
sequences lie.

A byte below `80` continues no sequence, so what has to be shown is that no longer sequence is completed to an
ASCII character, that is, that overlong forms are kept out. The scan keeps them out by the least byte that it
lets follow, and `Begun.PastAscii` is the bound that this byte and the bits gathered so far keep up together.
-/

set_option autoImplicit false

namespace StoreClient

namespace Utf8

/-! ## Sequences of several bytes -/

/-- What the bits of a sequence come to at least once the next byte is in, if so many bytes are owed then. -/
def leastValue : Nat → Nat
  | 0 => 0x80
  | _ + 1 => 2

/-- However the sequence is continued, it stays clear of ASCII. -/
structure Begun.PastAscii (q : Begun) : Prop where
  least : 0x80 ≤ q.least
  value : leastValue q.owed ≤ 64 * q.value + (q.least.toNat - 0x80)

variable {a b : UInt8} {q : Begun} {s : Scan}

/-- A byte of ASCII is a character; any other is none, and what it begins is past ASCII. -/
theorem lead_cases (b : UInt8) :
    (b < 0x80 ∧ lead b = .single (Char.ofNat b.toNat)) ∨
      (0x80 ≤ b ∧ lead b = .stray) ∨ (0x80 ≤ b ∧ ∃ q, lead b = .opens q ∧ q.PastAscii) := by
  fun_cases lead b with
  | case1 hascii => exact .inl ⟨hascii, rfl⟩
  | case2 hascii | case10 hascii => exact .inr (.inl ⟨UInt8.not_lt.mp hascii, rfl⟩)
  | case4 hascii | case5 hascii | case7 hascii | case9 hascii =>
    exact .inr (.inr ⟨UInt8.not_lt.mp hascii, _, rfl, by decide, by decide⟩)
  | case3 hascii hleast =>
    have hbits : 0xC2 ≤ b.toNat := UInt8.not_lt.mp hleast
    refine .inr (.inr ⟨UInt8.not_lt.mp hascii, _, rfl, UInt8.le_refl _, ?_⟩)
    change 0x80 ≤ 64 * (b.toNat - 0xC0) + (0x80 - 0x80)
    omega
  | case6 hascii _ hleast hne =>
    have hbits : 0xE0 < b.toNat := UInt8.lt_of_le_of_ne (UInt8.not_lt.mp hleast) (Ne.symm hne)
    refine .inr (.inr ⟨UInt8.not_lt.mp hascii, _, rfl, UInt8.le_refl _, ?_⟩)
    change 2 ≤ 64 * (b.toNat - 0xE0) + (0x80 - 0x80)
    omega
  | case8 hascii _ _ _ _ hleast hne =>
    have hbits : 0xF0 < b.toNat := UInt8.lt_of_le_of_ne (UInt8.not_lt.mp hleast) (Ne.symm hne)
    refine .inr (.inr ⟨UInt8.not_lt.mp hascii, _, rfl, UInt8.le_refl _, ?_⟩)
    change 2 ≤ 64 * (b.toNat - 0xF0) + (0x80 - 0x80)
    omega

namespace Begun.PastAscii

/-- A byte that continues the sequence is no ASCII, and brings its value as far as it has to be. -/
theorem continued (hq : q.PastAscii) (h : (q.least ≤ b && b ≤ q.greatest) = true) :
    0x80 ≤ b ∧ leastValue q.owed ≤ 64 * q.value + (b.toNat - 0x80) := by
  have hb : q.least ≤ b := by simpa using (Bool.and_eq_true_iff.mp h).1
  have hnat : q.least.toNat ≤ b.toNat := hb
  have hvalue := hq.value
  exact ⟨UInt8.le_trans hq.least hb, by omega⟩

/-- Two bits before the last byte make more than ASCII. -/
theorem of_two_le {value owed : Nat} (h : 2 ≤ value) : PastAscii ⟨value, owed, 0x80, 0xBF⟩ := by
  refine ⟨UInt8.le_refl _, ?_⟩
  cases owed with
  | zero =>
    change 0x80 ≤ 64 * value + (0x80 - 0x80)
    omega
  | succ owed =>
    change 2 ≤ 64 * value + (0x80 - 0x80)
    omega

end Begun.PastAscii

/-! ## The count of one character -/

/-- NUL stands for every number that no character has, so it is not told by its number alone. -/
theorem ofNat_eq_ofNat_iff {n : Nat} (ascii : a < 0x80) (nonzero : a ≠ 0) :
    Char.ofNat n = Char.ofNat a.toNat ↔ n = a.toNat := by
  have hvalid : a.toNat.isValidChar := .inl (Nat.lt_trans (UInt8.lt_iff_toNat_lt.mp ascii) (by decide))
  have hright : (Char.ofNat a.toNat).toNat = a.toNat := congrArg Char.toNat (dif_pos hvalid)
  refine ⟨?_, fun h => by rw [h]⟩
  intro h
  by_cases hn : n.isValidChar
  · have hleft : (Char.ofNat n).toNat = n := congrArg Char.toNat (dif_pos hn)
    rw [← hleft, h, hright]
  · have hnul : (Char.ofNat n).toNat = (0 : UInt8).toNat := congrArg Char.toNat (dif_neg hn)
    rw [h, hright] at hnul
    exact absurd (UInt8.toNat_inj.mp hnul) nonzero

/-- How often the character of a byte is among the pieces. -/
def tally (a : UInt8) (pieces : List (Option Char)) : Nat :=
  pieces.count (some (Char.ofNat a.toNat))

theorem ne_of_ascii (ascii : a < 0x80) (hb : 0x80 ≤ b) : b ≠ a := by
  rintro rfl
  exact absurd ascii (UInt8.not_lt.mpr hb)

namespace Scan

/-- What is open is past ASCII. -/
def Sound (s : Scan) : Prop :=
  ∀ q, s.begun = some q → q.PastAscii

theorem tally_close (a : UInt8) (s : Scan) : tally a s.close = tally a s.found := by
  unfold close
  cases s.begun with
  | none => exact List.count_reverse
  | some q => simp [tally]

section Steps

variable (ascii : a < 0x80) (nonzero : a ≠ 0)
include ascii nonzero

theorem start_sound_tally (found : List (Option Char)) (b : UInt8) :
    (start found b).Sound ∧ tally a (start found b).found = tally a found + [b].count a := by
  unfold start
  rcases lead_cases b with ⟨hb, hlead⟩ | ⟨hb, hlead⟩ | ⟨hb, q, hlead, hq⟩
  · rw [hlead]
    refine ⟨nofun, ?_⟩
    simp [tally, List.count_cons, ofNat_eq_ofNat_iff ascii nonzero, UInt8.toNat_inj]
  · have hne := ne_of_ascii ascii hb
    rw [hlead]
    refine ⟨nofun, ?_⟩
    simp [tally, hne]
  · have hne := ne_of_ascii ascii hb
    rw [hlead]
    refine ⟨fun q' h => Option.some.inj h ▸ hq, ?_⟩
    simp [tally, hne]

theorem push_sound_tally (hs : s.Sound) (b : UInt8) :
    (s.push b).Sound ∧ tally a (s.push b).found = tally a s.found + [b].count a := by
  fun_cases push s b with
  | case1 hbegun => exact start_sound_tally ascii nonzero s.found b
  | case2 q hbegun hrange value howed =>
    obtain ⟨hb, hvalue⟩ := (hs q hbegun).continued hrange
    have hne := ne_of_ascii ascii hb
    rw [howed] at hvalue
    have hpast : value ≠ a.toNat :=
      fun h => absurd (UInt8.lt_iff_toNat_lt.mp ascii) (Nat.not_lt.mpr (h ▸ hvalue))
    refine ⟨nofun, ?_⟩
    simp [tally, ofNat_eq_ofNat_iff ascii nonzero, hpast, hne]
  | case3 q hbegun hrange value owed howed =>
    obtain ⟨hb, hvalue⟩ := (hs q hbegun).continued hrange
    have hne := ne_of_ascii ascii hb
    rw [howed] at hvalue
    refine ⟨fun q' h => Option.some.inj h ▸ Begun.PastAscii.of_two_le hvalue, ?_⟩
    simp [tally, hne]
  | case4 q hbegun hrange =>
    -- The sequence is given up, which is no character, and the byte is looked at afresh.
    have hstart := start_sound_tally ascii nonzero (none :: s.found) b
    simpa [tally] using hstart

theorem tally_foldl_push (bytes : Bytes) (hs : s.Sound) :
    tally a (bytes.foldl push s).found = tally a s.found + bytes.count a := by
  induction bytes generalizing s with
  | nil => simp
  | cons b bytes ih =>
    obtain ⟨hsound, htally⟩ := push_sound_tally ascii nonzero hs b
    rw [List.foldl_cons, ih hsound, htally, Nat.add_assoc, ← List.count_append, List.singleton_append]

end Steps

end Scan

theorem tally_pieces (ascii : a < 0x80) (nonzero : a ≠ 0) (bytes : Bytes) :
    tally a (pieces bytes) = bytes.count a := by
  have hsound : Scan.Sound ⟨none, []⟩ := nofun
  rw [pieces, Scan.tally_close, Scan.tally_foldl_push ascii nonzero bytes hsound]
  simp [tally]

/-- A text has each character of ASCII as often as its source has the byte. -/
theorem count_lossy (ascii : a < 0x80) (nonzero : a ≠ 0) (bytes : Bytes) :
    (lossy bytes).count (Char.ofNat a.toNat) = bytes.count a := by
  have hreplacement : '\ufffd' ≠ Char.ofNat a.toNat := by
    intro h
    have hnat := (ofNat_eq_ofNat_iff ascii nonzero (n := 0xFFFD)).mp h
    exact absurd a.toNat_lt (by omega)
  rw [← tally_pieces ascii nonzero, tally, lossy, List.count, List.countP_map, List.count]
  refine List.countP_congr fun piece _ => ?_
  cases piece with
  | none => simp [hreplacement]
  | some c => simp

end Utf8

end StoreClient
