/-!
# `StoreClient/Text/CodeRanges.lean` — sets of code points

The character classes that decide what is escaped have hundreds of ranges each. A class is kept as
an array of its ranges in increasing order, none touching the next, and membership is a search that
halves the array, so that showing a long value costs a dozen comparisons for each character.

A search by halves in a table that is out of order would miss characters without a sign, so the order is
part of the set: a table with a range out of place is no `CodeRanges`. That the search then finds what lies
in a range and nothing else is `StoreClient/Proofs/Text/CodeRanges.lean`.
-/

set_option autoImplicit false

namespace StoreClient

namespace CodeRanges

/-- Whether each range has its ends in order and the next one begins behind a gap. -/
def increasing : List (Nat × Nat) → Bool
  | [] => true
  | [r] => r.1 ≤ r.2
  | r :: next :: rest => r.1 ≤ r.2 && r.2 + 1 < next.1 && increasing (next :: rest)

end CodeRanges

/-- A set of code points: its ranges, ends included, in increasing order. -/
structure CodeRanges where
  ranges : Array (Nat × Nat)
  ordered : CodeRanges.increasing ranges.toList = true

namespace CodeRanges

/-- Looks for `code` among the ranges with index in `[low, high)`, in at most `steps` halvings. -/
def search (set : CodeRanges) (code : Nat) : (steps : Nat) → (low high : Nat) → Bool
  | 0, _, _ => false
  | steps + 1, low, high =>
    if high ≤ low then false
    else
      let middle := (low + high) / 2
      match set.ranges[middle]? with
      | none => false
      | some (first, last) =>
        if code < first then set.search code steps low middle
        else if last < code then set.search code steps (middle + 1) high
        else true

/-- Whether the character's code point lies in one of the ranges. -/
def contains (set : CodeRanges) (c : Char) : Bool :=
  set.search c.toNat set.ranges.size 0 set.ranges.size

end CodeRanges

end StoreClient
