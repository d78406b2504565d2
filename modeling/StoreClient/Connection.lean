import StoreClient.Command.Encoding
import StoreClient.Reply.Reader
import StoreClient.Shape
import StoreClient.Transport.Buffered

/-!
# `StoreClient/Connection.lean` — a connection

A connection is a buffered transport with the limits for reading from it, and with one more bit: once
a fatal error has occurred (`Error.isFatal`) the place of the next reply in the stream is unknown, so
the connection is **broken** for good. Every call that touches the stream goes through `guarded`, which
refuses on a broken connection before the stream is touched, and breaks the connection when the call
ends in a fatal error. There is no other place where the bit is read for that purpose or changed.
-/

set_option autoImplicit false

namespace StoreClient

/-- A connection over a transport. -/
structure Connection (τ : Type) where
  stream : Buffered τ
  limits : Limits := {}
  /-- The remote side by name. -/
  peer : String := "stream"
  /-- Whether a fatal error has put the connection out of use. -/
  broken : Bool := false

namespace Connection

variable {τ : Type}

/-- A connection over a transport of which nothing has been read yet. -/
def ofTransport (transport : τ) (limits : Limits := {}) : Connection τ :=
  { stream := { transport }, limits }

/-- A call on the stream, kept off a broken connection; a fatal error breaks the connection. -/
@[inline]
def guarded {α : Type} (call : Action (Buffered τ) α) : Action (Connection τ) α := fun c =>
  if c.broken then .error .broken c
  else
    match call c.stream with
    | .ok a stream => .ok a { c with stream }
    | .error e stream => .error e { c with stream, broken := e.isFatal }

variable [Transport τ]

/-- Sends bytes and flushes. -/
def write (bytes : Bytes) : Action (Connection τ) Unit :=
  guarded (Action.ofStream (Buffered.deliver bytes))

/-- Sends one command. -/
def send (command : Command) : Action (Connection τ) Unit :=
  write command.encode

/-- Reads one complete reply. -/
def readFrame : Action (Connection τ) Frame := fun c =>
  guarded (Frame.read c.limits) c

/-- Reads one reply and decodes it. -/
def readReply (shape : Shape) : Action (Connection τ) Value := do
  return shape.decode (← readFrame)

end Connection

end StoreClient
