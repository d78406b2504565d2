/-!
# `StoreClient/Limits.lean` — bounds on what the remote side may announce

A length or a count comes before what it measures, so a reply can promise more than there will ever
be room for. The bounds on payloads and arrays can be set; those on a line and on nesting are part of
the protocol as it is spoken here.

They are the only bounds here. **Room for a payload of any accepted length is taken for granted**
(`Frame.readPayload`), although nothing keeps a bound from being set higher than any memory goes, and a
length may then be accepted for which no room can be had. What becomes of a process in such a case is
not said.
-/

set_option autoImplicit false

namespace StoreClient

/-- Upper bounds on the lengths that the remote side announces. A length within them is taken to have room,
however large it is. -/
structure Limits where
  /-- The longest payload, in bytes. -/
  bulk : Nat := 512 * 1024 * 1024
  /-- The longest array, in elements. -/
  array : Nat := 1024 * 1024
  deriving DecidableEq, Repr

/-- The longest line, its terminator included. -/
def Limits.maxLine : Nat := 1024 * 1024

/-- How many arrays may be open at a time. -/
def Limits.maxNesting : Nat := 32

end StoreClient
