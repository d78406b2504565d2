import StoreClient.Transport

/-!
# `StoreClient/Transport/Buffered.lean` — a transport read byte by byte

A transport delivers bytes in pieces, and a reply is read byte by byte; between the two stands a
buffer with what has been delivered and not been read. The transport is asked only when the buffer is
empty, so the bytes come out in the order in which they came in, and how they were cut cannot be seen.
Writes pass the buffer by.
-/

set_option autoImplicit false

namespace StoreClient

/-- A transport with the bytes that it delivered ahead of their use. -/
structure Buffered (τ : Type) where
  transport : τ
  buffer : Bytes := []

namespace Buffered

variable {τ : Type} [Transport τ]

/-- How many bytes the transport is asked for at a time. -/
def capacity : Nat := 64 * 1024

/-- The next byte: from the buffer, or the first of what the transport delivers. -/
@[inline]
def next : StreamAction (Buffered τ) (Option UInt8) := fun s =>
  match s.buffer with
  | b :: rest => .ok (some b) { s with buffer := rest }
  | [] =>
    match Transport.read capacity s.transport with
    | .ok [] t => .ok none ⟨t, []⟩
    | .ok (b :: rest) t => .ok (some b) ⟨t, rest⟩
    | .error e t => .error e ⟨t, []⟩

instance : ByteSource (Buffered τ) := ⟨next⟩

/-- Writes all bytes to the transport and flushes it. -/
def deliver (bytes : Bytes) : StreamAction (Buffered τ) Unit := fun s =>
  match Transport.deliver bytes s.transport with
  | .ok a t => .ok a { s with transport := t }
  | .error e t => .error e { s with transport := t }

end Buffered

end StoreClient
