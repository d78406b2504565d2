import StoreClient.Decimal.Real
import StoreClient.Reply.Frame
import StoreClient.Reply.Info
import StoreClient.Value

/-!
# `StoreClient/Shape.lean` — what the reply to a command looks like

A reply does not say what it means: `:1` is a count after one command and a yes after another. So each
command is paired with the **shape** of its reply when it is made, and the shape travels with it
until the reply arrives, which in a batch may be much later.

`Shape.decode` reads a frame under a shape. Two frames mean the same under every shape and are settled
first: an error frame is a refusal, and a null payload is the absence of a value. Of the others,
`Shape.read?` accepts those that the shape has, and the rest are mismatches. Decoding never fails:
the frame was read to its last byte, so whatever it means, the stream is in step.
-/

set_option autoImplicit false

namespace StoreClient

/-- The shape of the reply to a command. -/
inductive Shape where
  /-- A status, whatever it says. -/
  | status
  /-- A status whose text is the answer. -/
  | line
  /-- The acknowledgement of a command inside a transaction. -/
  | queued
  | integer
  /-- An integer that is 0 for no and 1 for yes. -/
  | flag
  | bulk
  /-- A payload that is the text of a number. -/
  | double
  /-- An array of payloads. -/
  | list
  /-- An array of keys and values by turns. -/
  | entries
  /-- An array with the values of the given keys, position by position. -/
  | valuesOf (keys : List Bytes)
  /-- A payload that holds server information. -/
  | info
  /-- A status that names the type of a key. -/
  | keyType
  deriving DecidableEq, Repr

namespace Shape

/-- The status that acknowledges a command inside a transaction. -/
def acknowledgement : Bytes := Bytes.ofAscii "QUEUED"

/-- The payloads of an array all of whose items are payloads; a null array has none. -/
def payloads? : Frame → Option (List Bytes)
  | .array items => items.mapM Frame.payload?
  | .nullArray => some []
  | _ => none

/-- Adds keys and values that stand by turns; a key without a value spoils them all. -/
def addEntries : Dictionary → List Bytes → Option Dictionary
  | d, [] => some d
  | _, [_] => none
  | d, key :: value :: rest => addEntries (d.insert key value) rest

/-- Adds the values of keys, position by position. A null item leaves its key without a value; an item
that is neither that nor a payload spoils them all, and so does an item too many or too few. -/
def addValues : Dictionary → List Bytes → List Frame → Option Dictionary
  | d, [], [] => some d
  | d, key :: keys, .bulk value :: items => addValues (d.insert key value) keys items
  | d, _ :: keys, .nullBulk :: items => addValues d keys items
  | _, _, _ => none

/-- The meaning of a frame that has the shape. -/
def read? : Shape → Frame → Option Value
  | .status, .status _ => some (.boolean true)
  | .line, .status text => some (.bulk text)
  | .queued, .status text => if text = acknowledgement then some .queued else none
  | .integer, .integer n => some (.integer n)
  | .flag, .integer n =>
    if n = 0 then some (.boolean false) else if n = 1 then some (.boolean true) else none
  | .bulk, .bulk payload => some (.bulk payload)
  | .double, .bulk payload => (Decimal.readFloat payload).map .double
  | .list, frame => (payloads? frame).map .array
  | .entries, frame => ((payloads? frame).bind (addEntries ∅)).map .hash
  | .valuesOf keys, .array items =>
    if keys = [] then none else (addValues ∅ keys items).map .hash
  | .info, .bulk payload => some (.hash (Info.parse payload))
  | .keyType, .status word => (KeyType.ofName? word).map .type
  | _, _ => none

/-- The meaning of a frame as the reply to a command whose replies have the shape. -/
def decode (shape : Shape) (frame : Frame) : Value :=
  match frame with
  | .error text => .error (some (String.ofList (Utf8.lossy text)))
  | .nullBulk => .absent
  | frame => (shape.read? frame).getD .mismatch

end Shape

end StoreClient
