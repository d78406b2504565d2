import StoreClient.Action

/-!
# `StoreClient/Reply/Line.lean` — reading a line

Every reply starts with a line, and every line ends with CR LF. A line may hold a CR anywhere, but no
LF: the first LF ends it, and the byte before that has to be a CR. The length of a line is bounded,
terminator included, so a line whose LF is the last byte within the bound is accepted, and the byte
after the bound is never asked for.
-/

set_option autoImplicit false

namespace StoreClient

/-- What the bytes of a line, newest first, and the way in which they ended amount to: the line
without its terminator, or the reason why there is none. -/
def finishLine : Bytes × LineStop → Except Error Bytes
  | (b :: c :: line, .lineFeed) =>
    if b = Bytes.lf ∧ c = Bytes.cr then .ok line.reverse else .error (.protocol .bareLineFeed)
  | (_, .lineFeed) => .error (.protocol .bareLineFeed)
  | (_, .full) => .error (.protocol .lineTooLong)
  | ([], .endOfStream) => .error (.io .closed)
  | (_ :: _, .endOfStream) => .error (.io .closedInLine)

/-- Reads a line and returns it without its terminator. -/
@[specialize]
def readLine {σ : Type} [ByteSource σ] : Action σ Bytes := do
  let found ← Action.ofStream (pullLine Limits.maxLine [])
  match finishLine found with
  | .ok line => pure line
  | .error e => throw e

end StoreClient
