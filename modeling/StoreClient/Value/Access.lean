import StoreClient.Error

/-!
# `StoreClient/Value/Access.lean` — taking the contents out of a value

Each accessor reads one tag and refuses every other by name, so that a refusal of the remote side or a
missing key is never read as data.
-/

set_option autoImplicit false

namespace StoreClient

namespace Value

/-- The refusal to read a value as what it is not. -/
def unlike (v : Value) (expected : Tag) : Error :=
  .typeMismatch expected v.tag

/-- The integer. -/
def asInteger : Value → Except Error Int64
  | .integer n => .ok n
  | v => .error (v.unlike .integer)

/-- The truth value. -/
def asBoolean : Value → Except Error Bool
  | .boolean b => .ok b
  | v => .error (v.unlike .boolean)

/-- The double. -/
def asDouble : Value → Except Error Float
  | .double x => .ok x
  | v => .error (v.unlike .double)

/-- The payload. -/
def asBytes : Value → Except Error Bytes
  | .bulk bytes => .ok bytes
  | v => .error (v.unlike .bulk)

/-- The payload as text, with U+FFFD for what is no text. -/
def asText (v : Value) : Except Error String :=
  v.asBytes.map fun bytes => String.ofList (Utf8.lossy bytes)

/-- The items. -/
def asArray : Value → Except Error (List Bytes)
  | .array items => .ok items
  | v => .error (v.unlike .array)

/-- The entries. -/
def asHash : Value → Except Error Dictionary
  | .hash entries => .ok entries
  | v => .error (v.unlike .hash)

/-- The type of a key. -/
def asType : Value → Except Error KeyType
  | .type t => .ok t
  | v => .error (v.unlike .type)

/-- How many elements a collection has. -/
def elementCount : Value → Except Error Nat
  | .array items => .ok items.length
  | .hash entries => .ok entries.size
  | v => .error (v.unlike .array)

end Value

end StoreClient
