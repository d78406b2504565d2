import StoreClient.Decimal.Binary64
import StoreClient.Decimal.Numeral

/-!
# `StoreClient/Decimal/Shortest.lean` — the fewest digits that read back as the same double

A double is one point, and it answers for an interval: every real number that is nearer to it than
to its neighbours reads back as that double. `shortest` finds the decimal with the fewest
significant digits in the interval, and of those the one nearest to the point; of two equally near
it takes the greater.

For `n = 1, 2, … 17` it looks at the two neighbours of the point on the grid of decimals with `n`
digits. If a point of the grid lies in the interval, so does one of these two, because the interval
is convex and holds the double; so the first `n` with a hit is the least there is. Seventeen digits
always hit.

All comparisons are between natural numbers. The point and the two ends of its interval are brought
to one denominator (`Interval`), which exists because each of them is an integer over a power of two.
-/

set_option autoImplicit false

namespace StoreClient

namespace Decimal

/-- A positive double and the interval of reals that round to it, over one denominator. -/
structure Interval where
  low : Nat
  point : Nat
  high : Nat
  den : Nat
  /-- Whether the ends belong to the interval: they do if the significand is even. -/
  closed : Bool

namespace Interval

/-- The interval of `significand * 2 ^ exponent`. The ends lie halfway to the neighbours; below a
full significand of the least value the neighbour is only half as far, unless the exponent is the
least there is. -/
def ofBinary (significand : Nat) (exponent : Int) : Interval :=
  let scale := Nat.pow 2 exponent.toNat
  let narrow := significand = Binary64.fullSignificand ∧ Binary64.leastExponent < exponent
  { low := (4 * significand - (if narrow then 1 else 2)) * scale
    point := 4 * significand * scale
    high := (4 * significand + 2) * scale
    den := 4 * Nat.pow 2 (-exponent).toNat
    closed := significand % 2 = 0 }

/-- Whether `num / den` lies in the interval; both sides are over the same denominator. -/
def holds (i : Interval) (num : Nat) : Bool :=
  if i.closed then i.low ≤ num && num ≤ i.high else i.low < num && num < i.high

/-- The interval in units of `10 ^ power`. -/
def scaled (i : Interval) (power : Int) : Interval :=
  let up := Nat.pow 10 (-power).toNat
  { i with
    low := i.low * up
    point := i.point * up
    high := i.high * up
    den := i.den * Nat.pow 10 power.toNat }

/-- How many factors of ten take `num` up to `den`, as far as the fuel goes. -/
def leadingShifts (num den : Nat) : (fuel : Nat) → Nat
  | 0 => 0
  | fuel + 1 => if den ≤ num then 0 else leadingShifts (10 * num) den fuel + 1

/-- The number of digits before the point, or less the number of zeros after it: the `k` with
`10 ^ (k - 1) ≤ point < 10 ^ k`. The least double needs 324 factors of ten to reach one. -/
def magnitude (i : Interval) : Int :=
  if i.den ≤ i.point then width (i.point / i.den)
  else 1 - leadingShifts i.point i.den 400

/-- The multiple of `10 ^ power` in the interval that is nearest to the point, if there is one. -/
def onGrid (i : Interval) (power : Int) : Option Nat :=
  let s := i.scaled power
  let below := s.point / s.den
  let rest := s.point % s.den
  match s.holds (below * s.den), s.holds ((below + 1) * s.den) with
  | true, true => if 2 * rest < s.den then some below else some (below + 1)
  | true, false => some below
  | false, true => some (below + 1)
  | false, false => none

/-- Tries the grids with `digits`, `digits + 1`, … significant digits. -/
def search (i : Interval) (magnitude : Int) : (tries : Nat) → (digits : Nat) → Nat × Int
  | 0, _ => (0, 0)
  | tries + 1, digits =>
    let power := magnitude - digits
    match i.onGrid power with
    | some n => (n, power)
    | none => i.search magnitude tries (digits + 1)

end Interval

/-- The digits and the power of ten of the shortest decimal for `significand * 2 ^ exponent`, which
is not zero. Only a one-digit grid can round up to `10`, and that is the digit 1 of the next
power. -/
def shortest (significand : Nat) (exponent : Int) : Nat × Int :=
  let i := Interval.ofBinary significand exponent
  match i.search i.magnitude 17 1 with
  | (10, power) => (1, power + 1)
  | found => found

end Decimal

end StoreClient
