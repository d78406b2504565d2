import StoreClient.Reply.Header
import StoreClient.Reply.Line

/-!
# `StoreClient/Reply/Reader.lean` — reading a reply off a stream

`readFrame` reads one reply to its last byte and not a byte further. It reads a line, asks what the
line promises (`Reply/Header`), and fetches that: nothing more, a payload with its line end, or the
items of an array, each of which is a reply.

The depth of nesting is bounded, and the bound is what the recursion counts down: `readWithin room`
reads a reply in which `room` more arrays may be opened. An array that is one too many is refused
after its count was checked against the limits, since both are known from its line, but before any of
its items is read.
-/

set_option autoImplicit false

namespace StoreClient

namespace Frame

variable {σ : Type} [ByteSource σ]

/-- What a payload and its line end, newest byte first, amount to. -/
def finishPayload : Bytes → Except ProtocolFault Bytes
  | b :: c :: payload =>
    if b = Bytes.lf ∧ c = Bytes.cr then .ok payload.reverse else .error .unterminatedBulk
  | _ => .error .unterminatedBulk

/-- Reads a payload of known length and the line end behind it. Room for all of it is taken for granted: the
length was only announced, and with limits set high enough it can be more than any memory holds. -/
@[specialize]
def readPayload (length : Nat) : Action σ Bytes := do
  let bytes ← Action.ofStream (pullExactly (length + Bytes.crlf.length) [])
  Action.ofCheck (finishPayload bytes)

/-- Reads a first line, and then whatever it announces; how the items of an array are read is left
open. -/
@[specialize]
def readBy (limits : Limits) (readItems : Nat → Action σ (List Frame)) : Action σ Frame := do
  let line ← readLine
  match ← Action.ofCheck (Header.ofLine limits line) with
  | .complete frame => pure frame
  | .payload length => return .bulk (← readPayload length)
  | .items count => return .array (← readItems count)

/-- Reads a reply in which `room` arrays may be opened. -/
@[specialize]
def readWithin (limits : Limits) : (room : Nat) → Action σ Frame
  | 0 => readBy limits fun _ => throw (.protocol .nestedTooDeeply)
  | room + 1 => readBy limits fun count => Action.times (readWithin limits room) count

/-- Reads one complete reply. -/
@[specialize]
def read (limits : Limits) : Action σ Frame :=
  readWithin limits Limits.maxNesting

end Frame

end StoreClient
