import StoreClient.Bytes

/-!
# `StoreClient/Decimal/Numeral.lean` — decimal numerals

Lengths, counts and integers travel as decimal text. This file writes them (`ofNat`, `ofInt`) and
reads them back in the two ways that the protocol knows:

* **strictly** (`readStrict`), for the lengths on which the position of the next reply depends: an
  optional sign, at least one digit, nothing else, and a value of 64 bits;
* **leniently** (`readLenient`), for the payload of an integer reply: blanks and one sign may lead,
  reading ends at the first byte that is no digit, and what denotes no 64-bit integer is `0`.

Both go through one loop, `accumulate`, which keeps a running value and gives up at the first one
that leaves the range. Giving up early is more than an economy of time: a hostile line holds a
million digits, and the loop looks at no more than it takes to leave 64 bits.

`width` is how many digits `ofNat` writes, computed without writing them.
-/

set_option autoImplicit false

namespace StoreClient

namespace Decimal

/-! ## Writing -/

/-- The byte of a digit; `d` is below ten. -/
def digit (d : Nat) : UInt8 :=
  (48 + d).toUInt8

/-- The decimal numeral of a natural number, without leading zeros. -/
@[semireducible]
def ofNat (n : Nat) : Bytes :=
  if n < 10 then [digit n] else ofNat (n / 10) ++ [digit (n % 10)]

/-- The decimal numeral of an integer: a minus sign for a negative one, no plus sign. -/
def ofInt (n : Int) : Bytes :=
  if n < 0 then 45 :: ofNat n.natAbs else ofNat n.natAbs

/-- The number of digits in the numeral of `n`. -/
@[semireducible]
def width (n : Nat) : Nat :=
  if n < 10 then 1 else width (n / 10) + 1

/-! ## Reading -/

/-- The integers that 64 bits hold. -/
def inRange (n : Int) : Bool :=
  -9223372036854775808 ≤ n && n ≤ 9223372036854775807

/-- Which way the digits count: a minus sign makes each of them pull the value down, so that the
least integer is reached without passing through a positive value that does not exist. -/
inductive Sign where
  | plus
  | minus
  deriving DecidableEq, Repr

/-- The value after one more digit. -/
def Sign.extend (sign : Sign) (value : Int) (d : Nat) : Int :=
  match sign with
  | .plus => 10 * value + d
  | .minus => 10 * value - d

/-- Reads the digits at the front of a byte string onto a running value and returns the value with
the bytes from the first non-digit on; `none` as soon as the value leaves the range. -/
def accumulate (sign : Sign) : Int → Bytes → Option (Int × Bytes)
  | value, [] => some (value, [])
  | value, b :: rest =>
    if Bytes.isDigit b then
      let next := sign.extend value (Bytes.digitValue b)
      if inRange next then accumulate sign next rest else none
    else some (value, b :: rest)

/-- Takes one optional sign off the front. -/
def takeSign : Bytes → Sign × Bytes
  | [] => (.plus, [])
  | b :: rest =>
    if b = 45 then (.minus, rest)
    else if b = 43 then (.plus, rest)
    else (.plus, b :: rest)

/-- An optional sign, at least one digit and nothing else, with a value of 64 bits. -/
def readStrict (text : Bytes) : Option Int64 :=
  let (sign, digits) := takeSign text
  match digits, accumulate sign 0 digits with
  | _ :: _, some (value, []) => some (Int64.ofInt value)
  | _, _ => none

/-- Blanks, an optional sign and digits; whatever follows is ignored. No digits denote `0`, and so
does a value that 64 bits cannot hold. -/
def readLenient (text : Bytes) : Int64 :=
  let (sign, digits) := takeSign (text.dropWhile Bytes.isBlank)
  match accumulate sign 0 digits with
  | some (value, _) => Int64.ofInt value
  | none => 0

end Decimal

end StoreClient
