/-!
# `StoreClient/Bytes.lean` — byte strings, and the few bytes that have a name

Everything that crosses the wire is a string of arbitrary bytes. Keys and values may hold NUL, CR, LF
or anything that looks like a header, so no type of text is used for them: a byte string is a
`List UInt8`, and text is made from it only where something is shown to a person (`Text/Utf8`).

A list, and not an array, because every statement about the protocol speaks of a front and of what
follows it: a reply is read off the front of the bytes that are left, and a command is appended to
the bytes that were sent. Those are `++` and pattern matching here, with core's lemmas about them.
-/

set_option autoImplicit false

namespace StoreClient

/-- A string of arbitrary bytes. -/
abbrev Bytes : Type := List UInt8

namespace Bytes

/-- Line feed, the byte that ends a line. -/
def lf : UInt8 := 10

/-- Carriage return, the byte that must stand right before the line feed. -/
def cr : UInt8 := 13

/-- The terminator of every line and of every counted payload. -/
def crlf : Bytes := [cr, lf]

/-- The bytes of a word written in ASCII, which is how keywords are spelt. -/
def ofAscii (word : String) : Bytes :=
  word.toList.map fun c => c.toNat.toUInt8

/-- The bytes from `'0'` to `'9'`. -/
def isDigit (b : UInt8) : Bool :=
  48 ≤ b && b ≤ 57

/-- The number that a digit byte denotes. -/
def digitValue (b : UInt8) : Nat :=
  b.toNat - 48

/-- The blanks that may stand before an integer: tab, line feed, form feed, carriage return and
space. The vertical tab is none of them. -/
def isBlank (b : UInt8) : Bool :=
  b == 32 || b == 9 || b == 10 || b == 12 || b == 13

end Bytes

end StoreClient
