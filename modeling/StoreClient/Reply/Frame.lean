import StoreClient.Text.Utf8

/-!
# `StoreClient/Reply/Frame.lean` — replies as they are framed on the wire

A frame is one complete reply, cut out of the stream and otherwise untouched. The two ways in which
the remote side says "nothing" — a null payload and a null array — are frames of their own, not
special cases of the frames with contents, because nearly everything that looks at a frame treats them
apart.
-/

set_option autoImplicit false

namespace StoreClient

/-- One complete reply. -/
inductive Frame where
  /-- A line that reports success. -/
  | status (line : Bytes)
  /-- A line that reports failure. -/
  | error (line : Bytes)
  | integer (value : Int64)
  | bulk (payload : Bytes)
  | nullBulk
  | array (items : List Frame)
  | nullArray
  deriving BEq, Repr, Inhabited

namespace Frame

/-- The name of the frame's kind, for messages. -/
def kind : Frame → String
  | .status _ => "status"
  | .error _ => "error"
  | .integer _ => "integer"
  | .bulk _ => "bulk"
  | .nullBulk => "null bulk"
  | .array _ => "array"
  | .nullArray => "null array"

/-- What an error frame says, as text. -/
def errorText : Frame → Option String
  | .error line => some (String.ofList (Utf8.lossy line))
  | _ => none

/-- The payload of a bulk frame. -/
def payload? : Frame → Option Bytes
  | .bulk payload => some payload
  | _ => none

end Frame

end StoreClient
