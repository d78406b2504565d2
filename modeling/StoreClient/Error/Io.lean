/-!
# `StoreClient/Error/Io.lean` — failures of the byte stream

A stream that fails says what kind of failure it was and describes it in words. Both come from
outside for the failures of a transport; this file adds the failures that the library notices itself
while it reads and writes in full: an end of the stream where more was needed, and a write that makes
no progress.
-/

set_option autoImplicit false

namespace StoreClient

/-- The kinds of stream failure that are told apart. -/
inductive IoErrorKind where
  | unexpectedEof
  | writeZero
  | brokenPipe
  | connectionReset
  | timedOut
  | wouldBlock
  deriving DecidableEq, Repr

/-- A failure of the byte stream. -/
structure IoError where
  kind : IoErrorKind
  /-- What happened, in words. -/
  text : String
  deriving DecidableEq, Repr

namespace IoError

/-- The stream ended where a reply should start. -/
def closed : IoError :=
  ⟨.unexpectedEof, "connection closed by remote side"⟩

/-- The stream ended inside a line. -/
def closedInLine : IoError :=
  ⟨.unexpectedEof, "connection closed in the middle of a reply line"⟩

/-- The stream ended inside a payload of known length. -/
def shortPayload : IoError :=
  ⟨.unexpectedEof, "failed to fill whole buffer"⟩

/-- A write accepted no byte, so repeating it would never end. -/
def stalledWrite : IoError :=
  ⟨.writeZero, "failed to write whole buffer"⟩

end IoError

end StoreClient
