/-!
# `StoreClient/Session/Mode.lean` — the modes of a session
-/

set_option autoImplicit false

namespace StoreClient

/-- How a session treats the commands that are submitted to it. -/
inductive Mode where
  /-- Each command is sent, and its reply is read, at once. -/
  | normal
  /-- Each command is sent at once; the remote side keeps it until the batch is executed. -/
  | transaction
  /-- Commands are kept here and sent together when the batch is executed. -/
  | pipeline
  deriving DecidableEq, Repr, Inhabited

namespace Mode

/-- The name of a mode. -/
def name : Mode → String
  | .normal => "normal"
  | .transaction => "transaction"
  | .pipeline => "pipeline"

/-- Whether commands are being gathered for a later execution. -/
def isBatching : Mode → Bool
  | .normal => false
  | .transaction | .pipeline => true

end Mode

end StoreClient
