import StoreClient.Bytes
import Std.Data.ExtTreeMap

/-!
# `StoreClient/Value/Dictionary.lean` — mappings from bytes to bytes

A dictionary is determined by which value each key has: two with the same content are equal, whatever
the order in which they were filled. Its entries are listed by increasing keys, compared byte by byte,
a key before all that it starts; that is the one order in which a dictionary is ever shown.
-/

set_option autoImplicit false

namespace StoreClient

/-- A mapping from byte strings to byte strings. -/
abbrev Dictionary : Type := Std.ExtTreeMap Bytes Bytes

namespace Dictionary

/-- Puts entries in, one after the other, over those that are there. -/
def insertAll (d : Dictionary) (entries : List (Bytes × Bytes)) : Dictionary :=
  entries.foldl (fun d e => d.insert e.1 e.2) d

/-- The dictionary of a list of entries; of two entries with one key the later one counts. -/
def ofEntries (entries : List (Bytes × Bytes)) : Dictionary :=
  insertAll ∅ entries

end Dictionary

end StoreClient
