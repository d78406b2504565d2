import Mathlib.Data.List.TakeWhile
import Mathlib.Data.Nat.Digits.Lemmas
import StoreClient.Command
import StoreClient.Proofs.Decimal

/-!
# `StoreClient/Proofs/Decimal/Lenient.lean` — the integer that a text stands for

The number of an integer reply is read without complaint: whatever the text is, it stands for an integer.
Which one does not need the loop to be told. A text divides into blanks, a sign, digits and a rest, each as
long as it can be (`Parts.Divide`), and **its integer is what the digits denote under the sign, or `0` where
64 bits do not hold that**. The loop gives up at the first running value that is out of range, and
`accumulate_eq` has shown that this is the same.
-/

set_option autoImplicit false

namespace StoreClient

namespace Decimal

theorem valueOf_eq_ofDigits (digits : Bytes) :
    valueOf digits = Nat.ofDigits 10 (digits.reverse.map Bytes.digitValue) := by
  -- On the digits from the last one on, which is the one of the least weight.
  induction digits using List.reverseRecOn with
  | nil => rfl
  | append_singleton digits b ih =>
    rw [valueOf, valueFrom_append, ← valueOf, ih, valueFrom_cons, List.reverse_append]
    simp [valueFrom, Nat.ofDigits_cons, Nat.add_comm]

/-- The parts of a text that is read as an integer. -/
structure Parts where
  blanks : Bytes
  sign : Sign
  mark : Bytes
  digits : Bytes
  rest : Bytes

namespace Parts

/-- The integer that the digits denote in positional notation, with the sign; no digits denote zero. -/
def value (p : Parts) : Int :=
  p.sign.apply (Nat.ofDigits 10 (p.digits.reverse.map Bytes.digitValue))

/-- The parts make up the text, and none of them could be longer. -/
structure Divide (p : Parts) (text : Bytes) : Prop where
  whole : text = p.blanks ++ (p.mark ++ (p.digits ++ p.rest))
  blank : ∀ b ∈ p.blanks, Bytes.isBlank b = true
  noMoreBlanks : ∀ b, (p.mark ++ (p.digits ++ p.rest)).head? = some b → Bytes.isBlank b = false
  spelt : Sign.Spelt p.sign p.mark
  noOtherSign : p.mark = [] → Unsigned (p.digits ++ p.rest)
  digit : ∀ b ∈ p.digits, Bytes.isDigit b = true
  noMoreDigits : ∀ b, p.rest.head? = some b → Bytes.isDigit b = false

end Parts

variable {p : Parts} {text : Bytes}

theorem head?_dropWhile_eq_false {P : UInt8 → Bool} {b : UInt8}
    (h : (text.dropWhile P).head? = some b) : P b = false := by
  have hnot := List.head?_dropWhile_not P text
  rw [h] at hnot
  simpa using hnot

theorem dropWhile_append_of_head? {P : UInt8 → Bool} {front back : Bytes} (hfront : ∀ b ∈ front, P b = true)
    (hback : ∀ b, back.head? = some b → P b = false) : (front ++ back).dropWhile P = back := by
  rw [List.dropWhile_append_of_pos hfront]
  cases back with
  | nil => rfl
  | cons b back => exact List.dropWhile_cons_of_neg (by simp [hback b rfl])

/-- Every text has such parts. -/
theorem exists_divide (text : Bytes) : ∃ p : Parts, p.Divide text := by
  obtain ⟨mark, hspelt, hmark, hbare⟩ := spelt_takeSign (text.dropWhile Bytes.isBlank)
  generalize takeSign (text.dropWhile Bytes.isBlank) = taken at hspelt hmark hbare
  obtain ⟨sign, signed⟩ := taken
  have hdigits : signed.takeWhile Bytes.isDigit ++ signed.dropWhile Bytes.isDigit = signed :=
    List.takeWhile_append_dropWhile
  refine ⟨⟨text.takeWhile Bytes.isBlank, sign, mark, signed.takeWhile Bytes.isDigit,
    signed.dropWhile Bytes.isDigit⟩, ?_⟩
  exact {
    whole := by
      simp only [hdigits, ← hmark]
      exact List.takeWhile_append_dropWhile.symm
    blank := fun b hb => List.mem_takeWhile_imp hb
    noMoreBlanks := by
      simp only [hdigits, ← hmark]
      exact fun b => head?_dropWhile_eq_false
    spelt := hspelt
    noOtherSign := by
      simp only [hdigits]
      exact hbare
    digit := fun b hb => List.mem_takeWhile_imp hb
    noMoreDigits := fun b => head?_dropWhile_eq_false }

/-- Whatever the parts are, the reader finds them. -/
theorem readLenient_of_divide (h : p.Divide text) :
    (readLenient text).toInt = if inRange p.value then p.value else 0 := by
  have hblanks : text.dropWhile Bytes.isBlank = p.mark ++ (p.digits ++ p.rest) := by
    rw [h.whole, dropWhile_append_of_head? h.blank h.noMoreBlanks]
  have hread := accumulate_eq p.sign h.digit h.noMoreDigits 0 (by rw [apply_zero]; rfl)
  have hvalue : p.sign.apply (valueFrom 0 p.digits) = p.value := by
    rw [← valueOf, valueOf_eq_ofDigits, Parts.value]
  rw [apply_zero, hvalue] at hread
  unfold readLenient
  rw [hblanks, takeSign_append h.spelt h.noOtherSign]
  simp only [hread]
  by_cases hr : inRange p.value = true
  · simp only [if_pos hr]
    exact toInt_ofInt hr
  · simp only [if_neg hr]
    rfl

theorem not_blank_of_isDigit {b : UInt8} (h : Bytes.isDigit b = true) : Bytes.isBlank b = false := by
  simp only [Bytes.isDigit, Bytes.isBlank] at h ⊢
  grind

theorem value_ofNat (sign : Sign) (mark : Bytes) (n : Nat) :
    (⟨[], sign, mark, ofNat n, []⟩ : Parts).value = sign.apply n := by
  rw [Parts.value, ← valueOf_eq_ofDigits, valueOf_ofNat]

/-- The numeral of an integer is its sign and its digits, and nothing else. -/
theorem exists_divide_ofInt (n : Int) : ∃ p : Parts, p.Divide (ofInt n) ∧ p.value = n := by
  have hdigits := isDigit_of_mem_ofNat n.natAbs
  have hbare : Unsigned (ofNat n.natAbs) := unsigned_of_digits hdigits
  unfold ofInt
  by_cases hn : n < 0
  · rw [if_pos hn]
    refine ⟨⟨[], .minus, [45], ofNat n.natAbs, []⟩, ?_, ?_⟩
    · exact ⟨by simp, by simp, by simp [Bytes.isBlank], .minus, by simp, hdigits, by simp⟩
    · rw [value_ofNat, Sign.apply]
      omega
  · rw [if_neg hn]
    refine ⟨⟨[], .plus, [], ofNat n.natAbs, []⟩, ?_, ?_⟩
    · refine ⟨by simp, by simp, ?_, .bare, by simpa using hbare, hdigits, by simp⟩
      intro b hb
      rw [List.nil_append, List.append_nil] at hb
      exact not_blank_of_isDigit (hdigits b (List.mem_of_mem_head? hb))
    · rw [value_ofNat, Sign.apply]
      omega

theorem readLenient_ofInt (n : Int64) : readLenient (ofInt n.toInt) = n := by
  obtain ⟨p, hdivide, hvalue⟩ := exists_divide_ofInt n.toInt
  have hrange : inRange p.value = true := by
    rw [hvalue, inRange_iff]
    exact ⟨n.le_toInt, n.toInt_le⟩
  have hread := readLenient_of_divide hdivide
  rw [if_pos hrange, hvalue] at hread
  exact Int64.toInt_inj.mp hread

/-- **A text stands for the integer that its digits denote**, or for `0` if 64 bits do not hold it; blanks
before it, zeros in front and whatever follows make no difference. What a command writes for an integer
stands for that integer. -/
theorem lenient_integer :
    (∀ text : Bytes, (∃ p : Parts, p.Divide text) ∧
      ∀ p : Parts, p.Divide text → (readLenient text).toInt =
        if -9223372036854775808 ≤ p.value ∧ p.value ≤ 9223372036854775807 then p.value else 0) ∧
    ∀ (c : Command) (n : Int64), ∃ text,
      (c.int n).parts = c.parts ++ [text] ∧ readLenient text = n := by
  refine ⟨?_, ?_⟩
  · intro text
    refine ⟨exists_divide text, ?_⟩
    intro p h
    rw [readLenient_of_divide h]
    simp only [inRange_iff]
  · intro c n
    exact ⟨ofInt n.toInt, by simp [Command.int, Command.arg, Command.args, Command.parts],
      readLenient_ofInt n⟩

/-- The least integer behind blanks and zeros, with something else behind it. -/
def paddedLeast : Parts :=
  ⟨[9, 32], .minus, [45], Bytes.ofAscii "000009223372036854775808", Bytes.ofAscii ".5"⟩

theorem lenient_integer_paddedLeast :
    paddedLeast.Divide (Bytes.ofAscii "\t -000009223372036854775808.5") ∧
      paddedLeast.value = -9223372036854775808 ∧
      (readLenient (Bytes.ofAscii "\t -000009223372036854775808.5")).toInt = -9223372036854775808 := by
  have hdivide : paddedLeast.Divide (Bytes.ofAscii "\t -000009223372036854775808.5") := {
    whole := rfl
    blank := List.all_eq_true.mp rfl
    noMoreBlanks := by simp [paddedLeast, Bytes.isBlank]
    spelt := .minus
    noOtherSign := by simp [paddedLeast]
    digit := List.all_eq_true.mp rfl
    noMoreDigits := by
      rintro b ⟨⟩
      rfl }
  have hvalue : paddedLeast.value = -9223372036854775808 := by decide
  refine ⟨hdivide, hvalue, ?_⟩
  rw [(lenient_integer.1 _).2 paddedLeast hdivide, hvalue]
  decide

end Decimal

end StoreClient
