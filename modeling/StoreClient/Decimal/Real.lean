import StoreClient.Decimal.Shortest
import StoreClient.Text.Blank
import StoreClient.Text.Utf8

/-!
# `StoreClient/Decimal/Real.lean` — doubles as text

Scores go out as text (`ofFloat`) and come back as text (`readFloat`).

**Writing** is positional whatever the size of the number: the shortest digits that read back, with
as many zeros as it takes, no exponent, and no point after a whole number. The remote side reads
`inf` and `-inf`; `NaN` it will refuse, and says so itself.

**Reading** takes an optional sign, digits with at most one point among or around them, and an
optional exponent, or the words for infinity and for what is no number in any case of letters. The
result is the nearest double to the number written, however many digits there are. White space
around the number is dropped first, and anything else makes the text no number.

The exponent is kept in bounds while it is read: a further digit is ignored once the value has
passed `exponentCap`. That alone decides nothing, as such a number is infinite or zero for any
mantissa of sensible length, but it keeps the powers of ten below from growing with the text.
-/

set_option autoImplicit false

namespace StoreClient

namespace Decimal

/-! ## Writing -/

/-- The positional numeral of `digits * 10 ^ power`. -/
def positional (digits : Nat) (power : Int) : Bytes :=
  let text := ofNat digits
  if 0 ≤ power then text ++ List.replicate power.toNat 48
  else
    let places := (-power).toNat
    if places < text.length then
      text.take (text.length - places) ++ 46 :: text.drop (text.length - places)
    else 48 :: 46 :: List.replicate (places - text.length) 48 ++ text

/-- A magnitude with a minus sign before it, if it is of a negative number. -/
def signed (negative : Bool) (magnitude : Bytes) : Bytes :=
  if negative then 45 :: magnitude else magnitude

/-- The text of a double. -/
def ofFloat (x : Float) : Bytes :=
  match Binary64.ofFloat x with
  | .nan => Bytes.ofAscii "NaN"
  | .infinite negative => signed negative (Bytes.ofAscii "inf")
  | .finite negative 0 _ => signed negative [48]
  | .finite negative significand exponent =>
    let (digits, power) := shortest significand exponent
    signed negative (positional digits power)

/-! ## Reading -/

/-- The value of a run of digits. -/
def digitsValue (digits : Bytes) : Nat :=
  digits.foldl (fun value b => 10 * value + Bytes.digitValue b) 0

/-- Past this value an exponent takes no further digit. -/
def exponentCap : Nat := 65536

/-- The value of an exponent's digits, kept in bounds. -/
def exponentValue (digits : Bytes) : Nat :=
  digits.foldl
    (fun value b => if value < exponentCap then 10 * value + Bytes.digitValue b else value) 0

/-- The exponent at the end of a number: nothing, or the letter, an optional sign and digits. -/
def readExponent : Bytes → Option Int
  | [] => some 0
  | letter :: rest =>
    if letter = 101 ∨ letter = 69 then
      let (sign, digits) := takeSign rest
      if digits ≠ [] ∧ digits.all Bytes.isDigit then
        match sign with
        | .plus => some (exponentValue digits)
        | .minus => some (-(exponentValue digits : Int))
      else none
    else none

/-- The double nearest to `digits * 10 ^ exponent`. The number lies below ten to the power of its
digits before the point and not below a tenth of that, and the two bounds settle what is past the
greatest double, or nearer to zero than to the least one, without looking at the digits. -/
def nearestDecimal (negative : Bool) (digits : Bytes) (exponent : Int) : Float :=
  let significant := digits.dropWhile (· == 48)
  let magnitude := (significant.length : Int) + exponent
  if significant = [] ∨ magnitude < -330 then Binary64.nearest negative 0 1
  else if 310 < magnitude then Binary64.infinity negative
  else
    Binary64.nearest negative (digitsValue significant * Nat.pow 10 exponent.toNat)
      (Nat.pow 10 (-exponent).toNat)

/-- A number without its sign: digits, perhaps a point and digits, at least one digit in all, and
perhaps an exponent. -/
def readMagnitude (negative : Bool) (text : Bytes) : Option Float :=
  let whole := text.takeWhile Bytes.isDigit
  let afterWhole := text.dropWhile Bytes.isDigit
  let (fraction, rest) :=
    match afterWhole with
    | 46 :: more => (more.takeWhile Bytes.isDigit, more.dropWhile Bytes.isDigit)
    | _ => ([], afterWhole)
  if whole = [] ∧ fraction = [] then none
  else
    (readExponent rest).map fun exponent =>
      nearestDecimal negative (whole ++ fraction) (exponent - fraction.length)

/-- A letter of ASCII in lower case; any other byte as it is. -/
def toLower (b : UInt8) : UInt8 :=
  if 65 ≤ b && b ≤ 90 then b + 32 else b

/-- The words that stand for a double. -/
def readWord (negative : Bool) (text : Bytes) : Option Float :=
  let word := text.map toLower
  if word = Bytes.ofAscii "inf" ∨ word = Bytes.ofAscii "infinity" then
    some (Binary64.infinity negative)
  else if word = Bytes.ofAscii "nan" then some Binary64.notANumber
  else none

/-- A number with an optional sign and nothing around it. -/
def readReal (text : Bytes) : Option Float :=
  let (sign, magnitude) := takeSign text
  let negative := sign = .minus
  (readMagnitude negative magnitude).or (readWord negative magnitude)

/-- The double that a byte string denotes as a text: well-formed UTF-8 whose white space at the
ends is dropped. No number holds a character beyond ASCII, so such a character spoils it. -/
def readFloat (bytes : Bytes) : Option Float := do
  let text ← Utf8.decode? bytes
  let trimmed := Text.trim text
  if trimmed.all (·.toNat < 0x80) then readReal (trimmed.map (·.toNat.toUInt8)) else none

end Decimal

end StoreClient
