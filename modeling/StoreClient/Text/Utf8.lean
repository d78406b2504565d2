import StoreClient.Bytes

/-!
# `StoreClient/Text/Utf8.lean` — reading bytes as text

Keys, values and error lines are bytes; they become text where a person reads them, and nothing
promises that they are well-formed UTF-8. `pieces` cuts a byte string into characters and into
**maximal ill-formed sequences**: a sequence that was begun by a lead byte and goes wrong counts
once, up to the byte that spoilt it, and that byte is looked at afresh.

Two readings follow from the cut. `lossy` shows U+FFFD for each ill-formed sequence and never
fails; `decode?` accepts well-formed text alone.

The scan is a fold over the bytes with a two-state machine (`Scan`): between characters, or inside a
sequence of which some bytes are still owed. The bounds of the next byte are part of the state,
because after `E0`, `ED`, `F0` and `F4` the second byte has a narrower range than elsewhere; that
is what keeps overlong forms, surrogates and values past U+10FFFF out.
-/

set_option autoImplicit false

namespace StoreClient

namespace Utf8

/-- A sequence that a lead byte began. -/
structure Begun where
  /-- The bits gathered so far. -/
  value : Nat
  /-- How many bytes are owed after the next one. -/
  owed : Nat
  /-- The least next byte that continues the sequence. -/
  least : UInt8
  /-- The greatest next byte that continues the sequence. -/
  greatest : UInt8

/-- What a byte means between characters. -/
inductive Lead where
  /-- A character of one byte. -/
  | single (c : Char)
  /-- The first byte of a longer sequence. -/
  | opens (sequence : Begun)
  /-- No character starts with this byte. -/
  | stray

/-- Reads a byte that stands between characters. -/
def lead (b : UInt8) : Lead :=
  if b < 0x80 then .single (Char.ofNat b.toNat)
  else if b < 0xC2 then .stray
  else if b < 0xE0 then .opens ⟨b.toNat - 0xC0, 0, 0x80, 0xBF⟩
  else if b = 0xE0 then .opens ⟨0, 1, 0xA0, 0xBF⟩
  else if b = 0xED then .opens ⟨0xD, 1, 0x80, 0x9F⟩
  else if b < 0xF0 then .opens ⟨b.toNat - 0xE0, 1, 0x80, 0xBF⟩
  else if b = 0xF0 then .opens ⟨0, 2, 0x90, 0xBF⟩
  else if b < 0xF4 then .opens ⟨b.toNat - 0xF0, 2, 0x80, 0xBF⟩
  else if b = 0xF4 then .opens ⟨4, 2, 0x80, 0x8F⟩
  else .stray

/-- A scan in progress: the open sequence, if any, and the pieces found so far, newest first. A
piece is a character, or `none` for an ill-formed sequence. -/
structure Scan where
  begun : Option Begun
  found : List (Option Char)

namespace Scan

/-- Takes a byte that stands between characters. -/
def start (found : List (Option Char)) (b : UInt8) : Scan :=
  match lead b with
  | .single c => ⟨none, some c :: found⟩
  | .opens sequence => ⟨some sequence, found⟩
  | .stray => ⟨none, none :: found⟩

/-- Takes one byte. -/
def push (s : Scan) (b : UInt8) : Scan :=
  match s.begun with
  | none => start s.found b
  | some q =>
    if q.least ≤ b && b ≤ q.greatest then
      let value := 64 * q.value + (b.toNat - 0x80)
      match q.owed with
      | 0 => ⟨none, some (Char.ofNat value) :: s.found⟩
      | owed + 1 => ⟨some ⟨value, owed, 0x80, 0xBF⟩, s.found⟩
    else start (none :: s.found) b

/-- All pieces in order; a sequence that the end of the bytes cut short is ill-formed. -/
def close (s : Scan) : List (Option Char) :=
  match s.begun with
  | none => s.found.reverse
  | some _ => (none :: s.found).reverse

end Scan

/-- The characters and the ill-formed sequences of a byte string, in order. -/
def pieces (bytes : Bytes) : List (Option Char) :=
  (bytes.foldl Scan.push ⟨none, []⟩).close

/-- The text of a byte string, with U+FFFD for every ill-formed sequence. -/
def lossy (bytes : Bytes) : List Char :=
  (pieces bytes).map (·.getD '\ufffd')

/-- The text of a byte string that is well-formed throughout. -/
def decode? (bytes : Bytes) : Option (List Char) :=
  (pieces bytes).mapM id

end Utf8

end StoreClient
