import StoreClient.Value.Dictionary
import StoreClient.Value.KeyType

/-!
# `StoreClient/Value.lean` — replies as a caller sees them

A value is what a reply means to the caller who asked. Three outcomes are kept apart in every reply:
the remote side refused (`error` with its message), it has no such thing (`absent`), or it answered in
a shape that the command does not have (`error` without a message). None of them can be taken for
data: data has a tag of its own for each shape.
-/

set_option autoImplicit false

namespace StoreClient

/-- The decoded reply to one command. -/
inductive Value where
  /-- A refusal with its message, or a reply of the wrong shape without one. -/
  | error (message : Option String)
  /-- The remote side has no value to give. -/
  | absent
  | integer (n : Int64)
  | boolean (b : Bool)
  | double (x : Float)
  | bulk (bytes : Bytes)
  | array (items : List Bytes)
  | hash (entries : Dictionary)
  | type (t : KeyType)
  /-- The command waits in a batch, and its reply is still to come. -/
  | queued

/-- What kind of value it is, without its contents. -/
inductive Tag where
  | error
  | absent
  | integer
  | boolean
  | double
  | bulk
  | array
  | hash
  | type
  | queued
  deriving DecidableEq, Repr

/-- The name of a tag. -/
def Tag.name : Tag → String
  | .error => "error"
  | .absent => "absent"
  | .integer => "integer"
  | .boolean => "boolean"
  | .double => "double"
  | .bulk => "bulk string"
  | .array => "array"
  | .hash => "hash"
  | .type => "type"
  | .queued => "queued"

namespace Value

/-- A reply of the wrong shape. -/
def mismatch : Value := .error none

/-- The tag of a value. -/
def tag : Value → Tag
  | .error _ => .error
  | .absent => .absent
  | .integer _ => .integer
  | .boolean _ => .boolean
  | .double _ => .double
  | .bulk _ => .bulk
  | .array _ => .array
  | .hash _ => .hash
  | .type _ => .type
  | .queued => .queued

/-- The message of a refusal. -/
def errorMessage : Value → Option String
  | .error message => message
  | _ => none

/-- Equality of values. Doubles compare as numbers, so a value that is no number differs from
itself and the two zeros are equal. -/
protected def beq : Value → Value → Bool
  | .error a, .error b => a == b
  | .absent, .absent => true
  | .integer a, .integer b => a == b
  | .boolean a, .boolean b => a == b
  | .double a, .double b => a == b
  | .bulk a, .bulk b => a == b
  | .array a, .array b => a == b
  | .hash a, .hash b => a == b
  | .type a, .type b => a == b
  | .queued, .queued => true
  | _, _ => false

instance : BEq Value := ⟨Value.beq⟩

end Value

end StoreClient
