import StoreClient.Decimal.Numeral
import StoreClient.Reply.Fault
import StoreClient.Reply.Frame

/-!
# `StoreClient/Reply/Header.lean` — what the first line of a reply says

The first byte of a line is its sigil; it tells what the rest of the line is:

    + text        a status, complete
    - text        an error, complete
    : number      an integer, complete
    $ length      a payload of that many bytes follows, then CR LF; -1 for none
    * count       that many replies follow; any negative number for none

`Header.ofLine` reads that off a line, with the checks that need the line and the limits alone, so
that the reader of the stream is left with fetching what a header promises. Lengths are read strictly,
the number of an integer reply leniently (`Decimal/Numeral`): on the former hangs the place of the
next reply, on the latter nothing.
-/

set_option autoImplicit false

namespace StoreClient

/-- What a first line amounts to. -/
inductive Header where
  /-- The line is the whole reply. -/
  | complete (frame : Frame)
  /-- A payload of this length follows, and then the end of a line. -/
  | payload (length : Nat)
  /-- This many replies follow. -/
  | items (count : Nat)

namespace Header

/-- The sigils of replies. -/
inductive Sigil where
  | status
  | error
  | integer
  | bulk
  | array
  deriving DecidableEq, Repr

/-- The kind of reply that a byte announces. -/
def Sigil.ofByte? (b : UInt8) : Option Sigil :=
  if b = 43 then some .status
  else if b = 45 then some .error
  else if b = 58 then some .integer
  else if b = 36 then some .bulk
  else if b = 42 then some .array
  else none

/-- Reads an announced number. -/
def readNumber (what : Measured) (text : Bytes) : Except ProtocolFault Int :=
  match Decimal.readStrict text with
  | some n => .ok n.toInt
  | none => .error (.malformed what text)

/-- Reads the announcement of a payload. -/
def ofLength (limits : Limits) (text : Bytes) : Except ProtocolFault Header := do
  let length ← readNumber .bulk text
  if length = -1 then .ok (.complete .nullBulk)
  else if length < 0 then .error (.negativeLength length)
  else if limits.bulk < length.toNat then .error (.bulkTooLarge length.toNat limits.bulk)
  else .ok (.payload length.toNat)

/-- Reads the announcement of an array. -/
def ofCount (limits : Limits) (text : Bytes) : Except ProtocolFault Header := do
  let count ← readNumber .array text
  if count < 0 then .ok (.complete .nullArray)
  else if limits.array < count.toNat then .error (.arrayTooLarge count.toNat limits.array)
  else .ok (.items count.toNat)

/-- Reads a first line. -/
def ofLine (limits : Limits) : Bytes → Except ProtocolFault Header
  | [] => .error .emptyLine
  | first :: text =>
    match Sigil.ofByte? first with
    | some .status => .ok (.complete (.status text))
    | some .error => .ok (.complete (.error text))
    | some .integer => .ok (.complete (.integer (Decimal.readLenient text)))
    | some .bulk => ofLength limits text
    | some .array => ofCount limits text
    | none => .error (.unknownSigil first)

end Header

end StoreClient
