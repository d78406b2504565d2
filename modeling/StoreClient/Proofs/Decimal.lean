import Mathlib.Tactic.IntervalCases
import StoreClient.Decimal.Numeral

/-!
# `StoreClient/Proofs/Decimal.lean` — what a numeral denotes

`Decimal.accumulate` reads digits onto a running value and gives up at the first value that 64 bits do
not hold. This file says what that computes, in terms that know nothing of the loop:

* `valueOf` is the number that a run of digits denotes, as large as it may be;
* `Denotes text v` says that `text` is a numeral of `v`: an optional sign, at least one digit, nothing
  else, and a value of 64 bits.

**Giving up early loses nothing** (`accumulate_eq`): in the direction of its sign a running value only
grows, so once it has left the range the final value is outside too. With that `readStrict` accepts
exactly what is denoted (`readStrict_eq_some_iff`), and what `ofNat` writes denotes what it was written
for (`denotes_ofNat`).
-/

set_option autoImplicit false

namespace StoreClient

namespace Decimal

/-! ## The meaning of digits -/

/-- The number that digits denote when they follow digits that denote `n`. -/
def valueFrom (n : Nat) (digits : Bytes) : Nat :=
  digits.foldl (fun n b => 10 * n + Bytes.digitValue b) n

/-- The number that a run of digits denotes. -/
def valueOf (digits : Bytes) : Nat :=
  valueFrom 0 digits

/-- A natural number with a sign before it. -/
def Sign.apply : Sign → Nat → Int
  | .plus, n => n
  | .minus, n => -n

/-- The ways in which a sign is spelt; a plus may be left out. -/
inductive Sign.Spelt : Sign → Bytes → Prop where
  | bare : Spelt .plus []
  | plus : Spelt .plus [43]
  | minus : Spelt .minus [45]

/-- The text is an optional sign and at least one digit, and denotes `v`, which 64 bits hold. -/
def Denotes (text : Bytes) (v : Int) : Prop :=
  ∃ sign mark digits, Sign.Spelt sign mark ∧ text = mark ++ digits ∧ digits ≠ [] ∧
    (∀ b ∈ digits, Bytes.isDigit b = true) ∧ v = sign.apply (valueOf digits) ∧ inRange v = true

theorem valueFrom_cons (n : Nat) (b : UInt8) (digits : Bytes) :
    valueFrom n (b :: digits) = valueFrom (10 * n + Bytes.digitValue b) digits := by
  simp only [valueFrom, List.foldl_cons]

theorem valueFrom_append (n : Nat) (ds es : Bytes) :
    valueFrom n (ds ++ es) = valueFrom (valueFrom n ds) es := List.foldl_append

theorem le_valueFrom (n : Nat) (digits : Bytes) : n ≤ valueFrom n digits := by
  induction digits generalizing n with
  | nil => exact Nat.le_refl n
  | cons b digits ih =>
    have h := ih (10 * n + Bytes.digitValue b)
    rw [valueFrom_cons]
    omega

/-! ## Reading -/

theorem Sign.extend_apply (sign : Sign) (n d : Nat) :
    sign.extend (sign.apply n) d = sign.apply (10 * n + d) := by
  cases sign with
  | plus => simp [Sign.extend, Sign.apply]
  | minus =>
    simp only [Sign.extend, Sign.apply]
    omega

theorem inRange_iff {v : Int} :
    inRange v = true ↔ -9223372036854775808 ≤ v ∧ v ≤ 9223372036854775807 := by
  simp [inRange]

/-- A value out of range stays out when its magnitude grows: the ranges of both signs are intervals
that hold zero. -/
theorem inRange_apply_mono {sign : Sign} {m n : Nat} (h : m ≤ n)
    (hn : inRange (sign.apply n) = true) : inRange (sign.apply m) = true := by
  rw [inRange_iff] at hn ⊢
  cases sign with
  | plus =>
    simp only [Sign.apply] at hn ⊢
    omega
  | minus =>
    simp only [Sign.apply] at hn ⊢
    omega

/-- **Giving up early loses nothing**: digits that are followed by no further digit are read to their
end exactly if the value they denote is in range. -/
theorem accumulate_eq (sign : Sign) {digits rest : Bytes}
    (hdigits : ∀ b ∈ digits, Bytes.isDigit b = true)
    (hrest : ∀ b, rest.head? = some b → Bytes.isDigit b = false) (n : Nat)
    (hn : inRange (sign.apply n) = true) :
    accumulate sign (sign.apply n) (digits ++ rest) =
      if inRange (sign.apply (valueFrom n digits)) then
        some (sign.apply (valueFrom n digits), rest)
      else none := by
  induction digits generalizing n with
  | nil =>
    -- No digit is left, and what follows is none, so the value is final.
    rw [if_pos (show inRange (sign.apply (valueFrom n [])) = true from hn)]
    cases rest with
    | nil => rfl
    | cons b rest =>
      rw [List.nil_append, accumulate, if_neg (by simp [hrest b rfl])]
      rfl
  | cons b digits ih =>
    have hb : Bytes.isDigit b = true := hdigits b List.mem_cons_self
    have htail : ∀ c ∈ digits, Bytes.isDigit c = true :=
      fun c hc => hdigits c (List.mem_cons_of_mem b hc)
    rw [List.cons_append, accumulate, if_pos hb, valueFrom_cons]
    simp only [Sign.extend_apply]
    by_cases hnext : inRange (sign.apply (10 * n + Bytes.digitValue b)) = true
    · rw [if_pos hnext]
      exact ih htail _ hnext
    · -- The running value has left the range; the final one is further out still.
      have hfinal : ¬ inRange
          (sign.apply (valueFrom (10 * n + Bytes.digitValue b) digits)) = true :=
        fun h => hnext (inRange_apply_mono (le_valueFrom _ digits) h)
      rw [if_neg hnext, if_neg hfinal]

/-- What was read off the front is a run of digits; what it denotes is in range. -/
theorem exists_digits_of_accumulate (sign : Sign) {n : Nat} {text rest : Bytes} {v : Int}
    (hn : inRange (sign.apply n) = true)
    (h : accumulate sign (sign.apply n) text = some (v, rest)) :
    ∃ digits, text = digits ++ rest ∧ (∀ b ∈ digits, Bytes.isDigit b = true) ∧
      v = sign.apply (valueFrom n digits) ∧ inRange v = true := by
  induction text generalizing n with
  | nil =>
    cases h
    exact ⟨[], rfl, by simp, rfl, hn⟩
  | cons b text ih =>
    rw [accumulate] at h
    by_cases hb : Bytes.isDigit b = true
    · simp only [if_pos hb, Sign.extend_apply] at h
      by_cases hnext : inRange (sign.apply (10 * n + Bytes.digitValue b)) = true
      · rw [if_pos hnext] at h
        obtain ⟨digits, htext, hdigits, hv, hr⟩ := ih hnext h
        refine ⟨b :: digits, by rw [htext, List.cons_append], ?_, hv, hr⟩
        intro c hc
        rcases List.mem_cons.mp hc with rfl | hc
        · exact hb
        · exact hdigits c hc
      · rw [if_neg hnext] at h
        cases h
    · rw [if_neg hb] at h
      cases h
      exact ⟨[], rfl, by simp, rfl, hn⟩

/-- No sign leads the text. -/
def Unsigned (text : Bytes) : Prop :=
  ∀ b, text.head? = some b → b ≠ 43 ∧ b ≠ 45

theorem unsigned_of_digits {digits : Bytes} (h : ∀ b ∈ digits, Bytes.isDigit b = true) :
    Unsigned digits := by
  intro b hb
  have hdigit := h b (List.mem_of_mem_head? hb)
  refine ⟨?_, ?_⟩
  · rintro rfl
    simp [Bytes.isDigit] at hdigit
  · rintro rfl
    simp [Bytes.isDigit] at hdigit

/-- A sign comes off the front as it is spelt, and if it is left out nothing does. -/
theorem takeSign_append {sign : Sign} {mark text : Bytes} (h : Sign.Spelt sign mark)
    (bare : mark = [] → Unsigned text) : takeSign (mark ++ text) = (sign, text) := by
  cases h with
  | plus => rfl
  | minus => rfl
  | bare =>
    cases text with
    | nil => rfl
    | cons b text =>
      obtain ⟨hplus, hminus⟩ := bare rfl b rfl
      simp [takeSign, hminus, hplus]

theorem spelt_takeSign (text : Bytes) :
    ∃ mark, Sign.Spelt (takeSign text).1 mark ∧ text = mark ++ (takeSign text).2 ∧
      (mark = [] → Unsigned (takeSign text).2) := by
  cases text with
  | nil => exact ⟨[], .bare, rfl, by simp [takeSign, Unsigned]⟩
  | cons b text =>
    unfold takeSign
    by_cases hminus : b = 45
    · subst hminus
      exact ⟨[45], .minus, rfl, by simp⟩
    · by_cases hplus : b = 43
      · subst hplus
        exact ⟨[43], .plus, rfl, by simp⟩
      · simp only [if_neg hminus, if_neg hplus]
        exact ⟨[], .bare, rfl, by simp [Unsigned, hminus, hplus]⟩

theorem apply_zero (sign : Sign) : sign.apply 0 = 0 := by
  cases sign <;> rfl

theorem readStrict_of_denotes {text : Bytes} {v : Int} (h : Denotes text v) :
    readStrict text = some (Int64.ofInt v) := by
  obtain ⟨sign, mark, digits, hmark, rfl, hne, hdigits, rfl, hr⟩ := h
  -- The digits are all that follows the sign, and the running value starts at zero.
  have hread := @accumulate_eq sign digits [] hdigits (by simp) 0 (by rw [apply_zero]; rfl)
  rw [List.append_nil, apply_zero, ← valueOf, if_pos hr] at hread
  unfold readStrict
  rw [takeSign_append hmark fun _ => unsigned_of_digits hdigits]
  obtain ⟨b, rest, rfl⟩ := List.exists_cons_of_ne_nil hne
  simp only [hread]

theorem toInt_ofInt {v : Int} (h : inRange v = true) : (Int64.ofInt v).toInt = v := by
  rw [inRange_iff] at h
  exact Int64.toInt_ofInt_of_le (by omega) (by omega)

/-- **The strict reader accepts exactly the numerals, and reads what they denote.** -/
theorem readStrict_eq_some_iff {text : Bytes} {n : Int64} :
    readStrict text = some n ↔ Denotes text n.toInt := by
  refine ⟨?_, ?_⟩
  · intro h
    obtain ⟨mark, hmark, htext, -⟩ := spelt_takeSign text
    unfold readStrict at h
    generalize takeSign text = taken at h hmark htext
    obtain ⟨sign, digits⟩ := taken
    dsimp only at h hmark htext
    split at h
    · -- Something was read off, and nothing is left behind it.
      rename_i b rest v hread
      rw [← apply_zero sign] at hread
      obtain ⟨ds, hds, hdigits, hv, hr⟩ :=
        exists_digits_of_accumulate sign (by rw [apply_zero]; rfl) hread
      rw [List.append_nil] at hds
      cases h
      rw [toInt_ofInt hr]
      exact ⟨sign, mark, b :: rest, hmark, htext, by simp, hds ▸ hdigits, hds ▸ hv, hr⟩
    · cases h
  · intro h
    rw [readStrict_of_denotes h, Int64.ofInt_toInt]

/-- What a text denotes can be found out by reading it. -/
instance (text : Bytes) (v : Int) : Decidable (Denotes text v) :=
  decidable_of_iff ((readStrict text).map Int64.toInt = some v) <| by
    refine ⟨?_, ?_⟩
    · intro h
      obtain ⟨n, hread, rfl⟩ := Option.map_eq_some_iff.mp h
      exact readStrict_eq_some_iff.mp hread
    · intro h
      have hr : inRange v = true := by
        obtain ⟨_, _, _, _, _, _, _, _, hr⟩ := h
        exact hr
      rw [readStrict_of_denotes h, Option.map_some, toInt_ofInt hr]

theorem Denotes.unique {text : Bytes} {v w : Int} (hv : Denotes text v) (hw : Denotes text w) :
    v = w := by
  have h := (readStrict_of_denotes hv).symm.trans (readStrict_of_denotes hw)
  obtain ⟨_, _, _, _, _, _, _, _, hrv⟩ := hv
  obtain ⟨_, _, _, _, _, _, _, _, hrw⟩ := hw
  rw [← toInt_ofInt hrv, ← toInt_ofInt hrw, Option.some.inj h]

/-- A numeral holds no line feed, so a line can carry it. -/
theorem Denotes.lf_not_mem {text : Bytes} {v : Int} (h : Denotes text v) : Bytes.lf ∉ text := by
  obtain ⟨sign, mark, digits, hmark, rfl, -, hdigits, -, -⟩ := h
  intro hlf
  rcases List.mem_append.mp hlf with hm | hd
  · cases hmark <;> simp [Bytes.lf] at hm
  · exact absurd (hdigits _ hd) (by decide)

/-! ## Writing -/

theorem isDigit_digit {d : Nat} (h : d < 10) : Bytes.isDigit (digit d) = true := by
  interval_cases d <;> decide

theorem digitValue_digit {d : Nat} (h : d < 10) : Bytes.digitValue (digit d) = d := by
  interval_cases d <;> rfl

theorem ofNat_of_lt {n : Nat} (h : n < 10) : ofNat n = [digit n] := by
  rw [ofNat, if_pos h]

theorem ofNat_of_le {n : Nat} (h : 10 ≤ n) : ofNat n = ofNat (n / 10) ++ [digit (n % 10)] := by
  rw [ofNat, if_neg (by omega)]

theorem isDigit_of_mem_ofNat (n : Nat) : ∀ b ∈ ofNat n, Bytes.isDigit b = true := by
  induction n using Nat.strongRecOn with
  | ind n ih =>
    intro b hb
    rcases Nat.lt_or_ge n 10 with hn | hn
    · rw [ofNat_of_lt hn, List.mem_singleton] at hb
      rw [hb]
      exact isDigit_digit hn
    · rw [ofNat_of_le hn, List.mem_append, List.mem_singleton] at hb
      rcases hb with hb | rfl
      · exact ih (n / 10) (by omega) b hb
      · exact isDigit_digit (by omega)

theorem ofNat_ne_nil (n : Nat) : ofNat n ≠ [] := by
  rcases Nat.lt_or_ge n 10 with hn | hn
  · simp [ofNat_of_lt hn]
  · simp [ofNat_of_le hn]

theorem valueOf_ofNat (n : Nat) : valueOf (ofNat n) = n := by
  induction n using Nat.strongRecOn with
  | ind n ih =>
    rcases Nat.lt_or_ge n 10 with hn | hn
    · rw [ofNat_of_lt hn, valueOf, valueFrom_cons, digitValue_digit hn]
      rw [Nat.mul_zero, Nat.zero_add]
      rfl
    · have hq := ih (n / 10) (by omega)
      rw [ofNat_of_le hn, valueOf, valueFrom_append, ← valueOf, hq, valueFrom_cons,
        digitValue_digit (by omega)]
      show 10 * (n / 10) + n % 10 = n
      omega

/-- **What is written for a number denotes that number**, as far as 64 bits go. -/
theorem denotes_ofNat {n : Nat} (h : n ≤ 9223372036854775807) : Denotes (ofNat n) n := by
  refine ⟨.plus, [], ofNat n, .bare, rfl, ofNat_ne_nil n, isDigit_of_mem_ofNat n, ?_, ?_⟩
  · rw [valueOf_ofNat]
    rfl
  · rw [inRange_iff]
    omega

theorem denotes_ofInt {n : Int} (h : inRange n = true) : Denotes (ofInt n) n := by
  have hdigits := isDigit_of_mem_ofNat n.natAbs
  unfold ofInt
  by_cases hn : n < 0
  · rw [if_pos hn]
    refine ⟨.minus, [45], ofNat n.natAbs, .minus, rfl, ofNat_ne_nil _, hdigits, ?_, h⟩
    rw [valueOf_ofNat, Sign.apply]
    omega
  · rw [if_neg hn]
    refine ⟨.plus, [], ofNat n.natAbs, .bare, rfl, ofNat_ne_nil _, hdigits, ?_, h⟩
    rw [valueOf_ofNat, Sign.apply]
    omega

theorem readStrict_ofInt (n : Int64) : readStrict (ofInt n.toInt) = some n :=
  readStrict_eq_some_iff.mpr (denotes_ofInt (inRange_iff.mpr ⟨n.le_toInt, n.toInt_le⟩))

/-- The digits that are written are as many as `width` says. -/
theorem length_ofNat (n : Nat) : (ofNat n).length = width n := by
  induction n using Nat.strongRecOn with
  | ind n ih =>
    rcases Nat.lt_or_ge n 10 with hn | hn
    · rw [ofNat_of_lt hn, width, if_pos hn]
      rfl
    · rw [ofNat_of_le hn, width, if_neg (by omega), List.length_append, ih (n / 10) (by omega)]
      rfl

/-- A number below the `k`-th power of ten takes at most `k` digits. -/
theorem width_le {k n : Nat} (hk : 0 < k) (h : n < Nat.pow 10 k) : width n ≤ k := by
  induction k generalizing n with
  | zero => omega
  | succ k ih =>
    rw [width]
    rcases Nat.lt_or_ge n 10 with hn | hn
    · rw [if_pos hn]
      omega
    · rw [if_neg (by omega)]
      -- One digit less, and one power less to stay below.
      have hpow : Nat.pow 10 (k + 1) = 10 * Nat.pow 10 k := Nat.mul_comm _ _
      have hk' : 0 < k := by
        rcases Nat.eq_zero_or_pos k with rfl | hk'
        · exact absurd h (by simp; omega)
        · exact hk'
      have hw : width (n / 10) ≤ k := ih hk' (by omega)
      omega

end Decimal

end StoreClient
