import StoreClient.Transport

/-!
# `StoreClient/Transport/Scripted.lean` — a transport that plays a script

`Scripted` is a transport in memory whose behaviour is laid down in advance: the bytes it delivers and
in pieces of what size, how it ends, how much it accepts at a time and in all, and how many flushes
work. Everything that a stream can do to its user can be put into such a script, which makes it the
transport for trying the rest of the library out.
-/

set_option autoImplicit false

namespace StoreClient

/-- A transport with a script. -/
structure Scripted where
  /-- What is still to be delivered. -/
  replies : Bytes := []
  /-- The greatest number of bytes that one read delivers. -/
  readChunk : Option Nat := none
  /-- The failure behind the last byte; without one the stream ends there. -/
  readEnd : Option IoError := none
  /-- The greatest number of bytes that one write accepts. -/
  writeChunk : Option Nat := none
  /-- How many bytes are still going to be accepted. -/
  writeRoom : Option Nat := none
  /-- How a write fails for which there is no room; without it, it accepts nothing. -/
  writeFailure : Option IoError := none
  /-- How many flushes are still going to work. -/
  flushRoom : Option Nat := none
  /-- How a flush fails after those. -/
  flushFailure : IoError
  deriving Repr

namespace Scripted

/-- The front of some bytes, as far as a bound allows, if there is one. -/
def cut (bytes : Bytes) : Option Nat → Bytes
  | none => bytes
  | some bound => bytes.take bound

/-- Delivers the next piece. -/
def read (atMost : Nat) : StreamAction Scripted Bytes := fun s =>
  match s.replies with
  | [] =>
    match s.readEnd with
    | none => .ok [] s
    | some e => .error e s
  | _ =>
    let piece := (cut s.replies s.readChunk).take atMost
    .ok piece { s with replies := s.replies.drop piece.length }

/-- Accepts as much as the script allows. -/
def write (bytes : Bytes) : StreamAction Scripted Nat := fun s =>
  match s.writeRoom, s.writeFailure with
  | some 0, some e => if bytes = [] then .ok 0 s else .error e s
  | room, _ =>
    let accepted := (cut (cut bytes s.writeChunk) room).length
    .ok accepted { s with writeRoom := room.map (· - accepted) }

/-- Works as often as the script allows. -/
def flush : StreamAction Scripted Unit := fun s =>
  match s.flushRoom with
  | none => .ok () s
  | some 0 => .error s.flushFailure s
  | some (room + 1) => .ok () { s with flushRoom := some room }

instance : Transport Scripted := ⟨read, write, flush⟩

end Scripted

end StoreClient
