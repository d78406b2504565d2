import StoreClient.Transport

/-!
# `StoreClient/Transport/Recorder.lean` — what passed through a transport

`Recorder` behaves as the transport inside it and keeps a log of every call made on it, failed ones
included. What a session did to the world is read off the log: `sent` is all that the remote side was
given, `received` all that it gave, and the two counts say in how many calls.
-/

set_option autoImplicit false

namespace StoreClient

/-- A call on a transport and what came of it. -/
inductive Event where
  /-- A read delivered these bytes; none at the end of the stream. -/
  | received (bytes : Bytes)
  | readFailed (e : IoError)
  /-- A write accepted these bytes. -/
  | sent (bytes : Bytes)
  | writeFailed (e : IoError)
  | flushed
  | flushFailed (e : IoError)
  deriving DecidableEq, Repr

namespace Event

/-- The bytes that went out. -/
def bytesSent : Event → Bytes
  | .sent bytes => bytes
  | _ => []

/-- The bytes that came in. -/
def bytesReceived : Event → Bytes
  | .received bytes => bytes
  | _ => []

/-- Whether the call was a write. -/
def isWrite : Event → Bool
  | .sent _ | .writeFailed _ => true
  | _ => false

/-- Whether the call was a flush. -/
def isFlush : Event → Bool
  | .flushed | .flushFailed _ => true
  | _ => false

end Event

/-- A transport with a log of the calls on it, newest first. -/
structure Recorder (τ : Type) where
  transport : τ
  log : List Event := []

namespace Recorder

variable {τ : Type}

/-- A step on the transport inside, which is logged under what its result or its failure amounts to. -/
def logged {α : Type} (onResult : α → Event) (onFailure : IoError → Event)
    (step : StreamAction τ α) : StreamAction (Recorder τ) α := fun r =>
  match step r.transport with
  | .ok a t => .ok a ⟨t, onResult a :: r.log⟩
  | .error e t => .error e ⟨t, onFailure e :: r.log⟩

instance [Transport τ] : Transport (Recorder τ) where
  read atMost := logged .received .readFailed (Transport.read atMost)
  write bytes :=
    logged (fun accepted => .sent (bytes.take accepted)) .writeFailed (Transport.write bytes)
  flush := logged (fun _ => .flushed) .flushFailed Transport.flush

/-- All bytes that went out, in order. -/
def sent (r : Recorder τ) : Bytes :=
  r.log.reverse.flatMap Event.bytesSent

/-- All bytes that came in, in order. -/
def received (r : Recorder τ) : Bytes :=
  r.log.reverse.flatMap Event.bytesReceived

/-- The number of writes, failed ones included. -/
def writes (r : Recorder τ) : Nat :=
  r.log.countP Event.isWrite

/-- The number of flushes, failed ones included. -/
def flushes (r : Recorder τ) : Nat :=
  r.log.countP Event.isFlush

end Recorder

end StoreClient
