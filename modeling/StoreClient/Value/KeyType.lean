import StoreClient.Bytes

/-!
# `StoreClient/Value/KeyType.lean` — the types of value that a key can hold

The remote side names them by a word, in lower case and exactly.
-/

set_option autoImplicit false

namespace StoreClient

/-- What a key holds on the remote side. -/
inductive KeyType where
  | string
  | list
  | set
  | sortedSet
  | hash
  | stream
  /-- There is no such key. -/
  | none
  deriving DecidableEq, Repr

namespace KeyType

/-- The word for a type. -/
def name : KeyType → String
  | .string => "string"
  | .list => "list"
  | .set => "set"
  | .sortedSet => "zset"
  | .hash => "hash"
  | .stream => "stream"
  | .none => "none"

/-- All types. -/
def all : List KeyType :=
  [.string, .list, .set, .sortedSet, .hash, .stream, .none]

/-- The type that a word names. -/
def ofName? (word : Bytes) : Option KeyType :=
  all.find? fun t => Bytes.ofAscii t.name == word

/-- Every type is read back from its word. -/
theorem ofName?_name (t : KeyType) : ofName? (Bytes.ofAscii t.name) = some t := by
  cases t <;> decide

end KeyType

end StoreClient
