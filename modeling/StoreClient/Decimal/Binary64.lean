/-!
# `StoreClient/Decimal/Binary64.lean` — the numbers that a double holds

Scores and weights are doubles, and their text is decimal, so both directions between the two have
to be exact. This file states what a double is in terms of natural numbers (`Binary64`: a sign and
`significand * 2 ^ exponent`) and gives the double nearest to a positive fraction (`nearest`).

Everything is done on `Nat`. A product of the powers involved has at most some thousand bits, and
nothing is rounded on the way: a result that is rounded twice can differ in its last place from one
that is rounded once.
-/

set_option autoImplicit false

namespace StoreClient

/-- A double, read. -/
inductive Binary64 where
  | nan
  | infinite (negative : Bool)
  /-- The value is `significand * 2 ^ exponent`, negated if `negative` holds. -/
  | finite (negative : Bool) (significand : Nat) (exponent : Int)

namespace Binary64

/-- The exponent of the smallest doubles, which is the least there is. -/
def leastExponent : Int := -1074

/-- The significands with all 53 bits start here, at two to the power of 52. Stored, such a significand
is without its first bit, so this is also the place of the exponent among the bits. -/
def fullSignificand : Nat := 0x10000000000000

/-- The bit that negates. -/
def signBit : Nat := 0x8000000000000000

/-- The bits of positive infinity, the first that stand for no finite magnitude. -/
def infinityBits : Nat := 0x7FF0000000000000

/-- Reads the three fields of a double. A biased exponent of 0 marks the doubles with fewer than 53
bits, which share the least exponent with the first full ones. -/
def ofFloat (x : Float) : Binary64 :=
  let bits := x.toBits.toNat
  let negative := decide (signBit ≤ bits)
  let biased := bits / fullSignificand % 2048
  let fraction := bits % fullSignificand
  if biased = 2047 then
    if fraction = 0 then .infinite negative else .nan
  else if biased = 0 then .finite negative fraction leastExponent
  else .finite negative (fullSignificand + fraction) (leastExponent + (biased - 1 : Nat))

/-- The quotient rounded to the nearest integer; a half goes to the even neighbour. -/
def roundHalfEven (num den : Nat) : Nat :=
  let low := num / den
  let rest := num % den
  if 2 * rest < den then low
  else if den < 2 * rest then low + 1
  else low + low % 2

/-- The exponent of the double nearest to `num / den`: the one that leaves 53 bits before the
point, or the least one. -/
def exponentFor (num den : Nat) : Int :=
  let estimate : Int := (num.log2 : Int) - den.log2
  let tooHigh : Bool :=
    if 0 ≤ estimate then num < den * Nat.pow 2 estimate.toNat
    else num * Nat.pow 2 (-estimate).toNat < den
  max leastExponent ((if tooHigh then estimate - 1 else estimate) - 52)

/-- The bits of the double nearest to `num / den`, with ties to the even significand, for a
positive denominator. A significand that rounds up to 54 bits carries into the exponent by itself,
since the two fields stand side by side; past the greatest double the result is infinity. -/
def nearestBits (num den : Nat) : Nat :=
  if num = 0 then 0
  else
    let exponent := exponentFor num den
    let significand :=
      if 0 ≤ exponent then roundHalfEven num (den * Nat.pow 2 exponent.toNat)
      else roundHalfEven (num * Nat.pow 2 (-exponent).toNat) den
    min infinityBits ((exponent - leastExponent).toNat * fullSignificand + significand)

/-- The double nearest to `num / den`, negated on demand. -/
def nearest (negative : Bool) (num den : Nat) : Float :=
  let bits := nearestBits num den
  Float.ofBits ((if negative then signBit else 0) + bits).toUInt64

/-- An infinity. -/
def infinity (negative : Bool) : Float :=
  Float.ofBits ((if negative then signBit else 0) + infinityBits).toUInt64

/-- The double that is not a number. -/
def notANumber : Float :=
  Float.ofBits 0x7FF8000000000000

end Binary64

end StoreClient
