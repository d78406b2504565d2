import StoreClient.Command

/-!
# `StoreClient/Sorting.lean` — the clauses of a sort

A sort can be asked for with up to six clauses. They may be given in any order and more than once; of
several of one kind the last counts, and the remote side wants them in one order. So what matters of
a list of clauses is the last of each kind, and that is a `Sorting`.
-/

set_option autoImplicit false

namespace StoreClient

/-- In which direction to sort. -/
inductive Direction where
  | ascending
  | descending
  deriving DecidableEq, Repr

/-- The word for a direction. -/
def Direction.keyword : Direction → String
  | .ascending => "ASC"
  | .descending => "DESC"

/-- How to sort, and what to do with the result. -/
structure Sorting where
  /-- Sort by the values of the keys that match this pattern. -/
  weight : Option Bytes := none
  /-- Keep only a section: how many elements to skip, and how many to keep. -/
  window : Option (Int64 × Int64) := none
  /-- Return the values of the keys that match this pattern in place of the elements. -/
  lookup : Option Bytes := none
  direction : Option Direction := none
  /-- Compare as text and not as numbers. -/
  alphabetic : Bool := false
  /-- Store the result under this key and return only its size. -/
  destination : Option Bytes := none
  deriving DecidableEq

namespace Sorting

/-- One clause. -/
inductive Clause where
  | weight (pattern : Bytes)
  | limit (skip count : Int64)
  | lookup (pattern : Bytes)
  | direction (d : Direction)
  | alphabetic
  | destination (key : Bytes)
  deriving DecidableEq

/-- The sorting with a clause in place of an earlier one of its kind. -/
def set (s : Sorting) : Clause → Sorting
  | .weight pattern => { s with weight := some pattern }
  | .limit skip count => { s with window := some (skip, count) }
  | .lookup pattern => { s with lookup := some pattern }
  | .direction d => { s with direction := some d }
  | .alphabetic => { s with alphabetic := true }
  | .destination key => { s with destination := some key }

/-- The sorting that a list of clauses asks for. -/
def ofClauses (clauses : List Clause) : Sorting :=
  clauses.foldl set {}

/-- Whether the result is stored and not returned. -/
def stores (s : Sorting) : Bool :=
  s.destination.isSome

/-- A clause of a keyword and what belongs to it, if it is set. -/
def clauseWords {α : Type} (keyword : String) (words : α → List Bytes) : Option α → List Bytes
  | none => []
  | some a => Bytes.ofAscii keyword :: words a

/-- The clauses as arguments, in the order in which they are expected. -/
def arguments (s : Sorting) : List Bytes :=
  clauseWords "BY" (fun pattern => [pattern]) s.weight
    ++ clauseWords "LIMIT"
        (fun (skip, count) => [Decimal.ofInt skip.toInt, Decimal.ofInt count.toInt]) s.window
    ++ clauseWords "GET" (fun pattern => [pattern]) s.lookup
    ++ s.direction.toList.map (fun d => Bytes.ofAscii d.keyword)
    ++ (if s.alphabetic then [Bytes.ofAscii "ALPHA"] else [])
    ++ clauseWords "STORE" (fun key => [key]) s.destination

/-- The command that sorts what a key holds. -/
def command (s : Sorting) (key : Bytes) : Command :=
  ((Command.ofKeyword "SORT").arg key).args s.arguments

end Sorting

end StoreClient
