import StoreClient.Value.Dictionary

/-!
# `StoreClient/Reply/Info.lean` — server information

The remote side reports on itself in one payload of lines, each a field as `name:value`. Lines end
with LF or CR LF, the last one perhaps with neither. Lines without a colon are headings or blank and
count for nothing; the first colon is the one that divides, so a value may hold more of them. Where a
name comes twice the first line has it.
-/

set_option autoImplicit false

namespace StoreClient

namespace Info

/-- The byte between a name and its value. -/
def colon : UInt8 := 58

/-- Puts one byte before the pieces of what follows it: a line feed starts a piece of its own. -/
def addByte (b : UInt8) : List Bytes → List Bytes
  | [] => [[b]]
  | piece :: pieces => if b = Bytes.lf then [] :: piece :: pieces else (b :: piece) :: pieces

/-- The pieces between line feeds; always one more than there are line feeds. -/
def split (text : Bytes) : List Bytes :=
  text.foldr addByte [[]]

/-- A piece without one carriage return at its end. -/
def stripCr (piece : Bytes) : Bytes :=
  if piece.getLast? = some Bytes.cr then piece.dropLast else piece

/-- The name and the value on a line. -/
def field? (line : Bytes) : Option (Bytes × Bytes) :=
  match line.dropWhile (· != colon) with
  | [] => none
  | _ :: value => some (line.takeWhile (· != colon), value)

/-- The fields of the text, in order. -/
def fields (text : Bytes) : List (Bytes × Bytes) :=
  (split text).filterMap fun piece => field? (stripCr piece)

/-- The text as a dictionary. -/
def parse (text : Bytes) : Dictionary :=
  (fields text).foldl (fun d field => d.insertIfNew field.1 field.2) ∅

end Info

end StoreClient
