import StoreClient.Bytes
import StoreClient.Error.Io

/-!
# `StoreClient/Source.lean` — where replies are read from

All that reading a reply asks of a stream is its next byte, so that is the whole of `ByteSource`:
one byte, the end, or a failure. What the bytes come from, and in which pieces, cannot be seen
through it.

Two loops are built on it and nothing else is: `pullLine` reads up to a line feed and `pullExactly`
reads a given number of bytes. Both are bounded by a number that they count down, never by the
stream, so they end on a stream that never does. Both gather what they read newest first, which is
how a reader that sees one byte at a time has it.

`Input` is the plain source: bytes that are all there, with what comes after them.
-/

set_option autoImplicit false

namespace StoreClient

/-- A step on a byte stream, which may fail as the stream does. -/
abbrev StreamAction (σ α : Type) : Type := EStateM IoError σ α

/-- A stream that is read byte by byte. -/
class ByteSource (σ : Type) where
  /-- The next byte, or `none` at the end of the stream. -/
  next : StreamAction σ (Option UInt8)

/-- How the search for the end of a line ended. -/
inductive LineStop where
  /-- At a line feed. -/
  | lineFeed
  /-- At the end of the stream. -/
  | endOfStream
  /-- At the greatest number of bytes. -/
  | full
  deriving DecidableEq, Repr

section Loops

variable {σ : Type} [ByteSource σ]

/-- Reads up to and including a line feed, but at most `room` bytes, on top of those in `seen`. All
bytes come back newest first, the line feed among them. -/
@[specialize]
def pullLine : (room : Nat) → (seen : Bytes) → StreamAction σ (Bytes × LineStop)
  | 0, seen => pure (seen, .full)
  | room + 1, seen => do
    match ← ByteSource.next with
    | none => pure (seen, .endOfStream)
    | some b =>
      if b = Bytes.lf then pure (b :: seen, .lineFeed)
      else pullLine room (b :: seen)

/-- Reads `count` bytes on top of those in `seen`, newest first; the end of the stream on the way is
a failure. -/
@[specialize]
def pullExactly : (count : Nat) → (seen : Bytes) → StreamAction σ Bytes
  | 0, seen => pure seen
  | count + 1, seen => do
    match ← ByteSource.next with
    | none => throw .shortPayload
    | some b => pullExactly count (b :: seen)

end Loops

/-- Bytes that are all there. -/
structure Input where
  /-- What has not been read yet. -/
  rest : Bytes
  /-- The failure behind the last byte; without one the stream ends there. -/
  failure : Option IoError := none
  deriving DecidableEq, Repr

instance : ByteSource Input where
  next := fun input =>
    match input.rest with
    | b :: rest => .ok (some b) { input with rest := rest }
    | [] =>
      match input.failure with
      | none => .ok none input
      | some e => .error e input

end StoreClient
