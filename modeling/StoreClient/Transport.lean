import StoreClient.Source

/-!
# `StoreClient/Transport.lean` — the byte stream to the remote side

A transport is anything that can be read, written and flushed, in pieces of its own choosing: a read
gives at most as many bytes as were asked for, a write may accept fewer than it was offered, and each
of the three may fail. Nothing in the library depends on more than that.

`deliver` is the one way in which bytes go out: all of them, however many writes it takes, and then a
flush. Reads go through a buffer (`Transport/Buffered`).
-/

set_option autoImplicit false

namespace StoreClient

/-- A byte stream in both directions. -/
class Transport (τ : Type) where
  /-- Some bytes from the remote side, at most as many as given; none at the end of the stream. -/
  read : (atMost : Nat) → StreamAction τ Bytes
  /-- Offers bytes and returns how many of them were accepted. -/
  write : Bytes → StreamAction τ Nat
  /-- Sends on whatever was accepted and is still held back. -/
  flush : StreamAction τ Unit

namespace Transport

variable {τ : Type} [Transport τ]

/-- Writes until all bytes are accepted. Each write takes at least one byte off what is left or ends
the matter, so this comes to an end on every transport. Without bytes there is no write. -/
@[semireducible]
def writeAll : Bytes → StreamAction τ Unit
  | [] => pure ()
  | b :: rest => do
    match ← Transport.write (b :: rest) with
    | 0 => throw .stalledWrite
    | accepted + 1 => writeAll (rest.drop accepted)
termination_by bytes => bytes.length
decreasing_by simp only [List.length_drop, List.length_cons]; omega

/-- Writes all bytes and flushes. -/
def deliver (bytes : Bytes) : StreamAction τ Unit := do
  writeAll bytes
  Transport.flush

end Transport

end StoreClient
