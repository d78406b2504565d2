import StoreClient.Connection

/-!
# `StoreClient/Session.lean` — commands, transactions and pipelines over one connection

A session decides for each command that is submitted whether it runs now or with a batch:

* in **normal** mode a command is sent and its reply is read;
* in a **transaction** a command is sent, and what is read is the acknowledgement that the remote side
  keeps it; one more command executes all of them, and its reply is an array with their replies;
* in a **pipeline** nothing is sent until the end; then all commands go out together, and their replies
  are read one after the other.

Replies carry no name of the command they belong to. The session keeps the shapes of the replies that
are still to come, in the order of submission, and matches replies to shapes by position; everything
rests on that order.

The state is a `Phase`, in which a mode and what belongs to it are one thing: only a transaction or a
pipeline has a queue, and only a pipeline holds commands back. Execution and dropping set the phase to
`normal` before anything is sent or read, so a batch that fails is over all the same. The same session with
the mode, the queue and the bytes as fields side by side is `StoreClient/Session/Flat.lean`.
-/

set_option autoImplicit false

namespace StoreClient

/-- What a session is in the middle of. -/
inductive Phase where
  | normal
  /-- A transaction, with the shapes of the replies to its commands. -/
  | transaction (queue : List Shape)
  /-- A pipeline, with the shapes of the replies to its commands and the commands as they will be
  sent. -/
  | pipeline (queue : List Shape) (outgoing : Bytes)
  deriving DecidableEq, Repr

namespace Phase

/-- The mode that the phase belongs to. -/
def mode : Phase → Mode
  | .normal => .normal
  | .transaction _ => .transaction
  | .pipeline _ _ => .pipeline

/-- The shapes of the replies that the execution of the batch will give, in order. -/
def queue : Phase → List Shape
  | .normal => []
  | .transaction queue => queue
  | .pipeline queue _ => queue

/-- The bytes that are held back until then. -/
def outgoing : Phase → Bytes
  | .normal | .transaction _ => []
  | .pipeline _ outgoing => outgoing

end Phase

/-- A session over a connection. -/
structure Session (τ : Type) where
  connection : Connection τ
  phase : Phase := .normal

namespace Session

variable {τ : Type}

/-- The mode of the session. -/
def mode (s : Session τ) : Mode := s.phase.mode

/-- How many commands wait for the execution of the batch. -/
def pending (s : Session τ) : Nat := s.phase.queue.length

/-- Whether the connection is out of use. -/
def isBroken (s : Session τ) : Bool := s.connection.broken

/-- A call on the connection. -/
def onConnection {α : Type} (call : Action (Connection τ) α) : Action (Session τ) α :=
  Action.within Session.connection (fun connection s => { s with connection }) call

/-- Passes to another phase. -/
def enter (phase : Phase) : Action (Session τ) Unit :=
  modify fun s => { s with phase }

/-- Refuses to open a batch while one is open. -/
def requireNormal (requested : Mode) : Action (Session τ) Unit := do
  let active := (← get).mode
  if active ≠ .normal then throw (.modeConflict active requested)

/-- The command that opens a transaction. -/
def beginCommand : Command := .ofKeyword "MULTI"

/-- The command that executes a transaction. -/
def executeCommand : Command := .ofKeyword "EXEC"

/-- The command that drops a transaction. -/
def discardCommand : Command := .ofKeyword "DISCARD"

variable [Transport τ]

/-- Sends a command and reads its reply. -/
def ask (command : Command) (shape : Shape) : Action (Session τ) Value := do
  onConnection (Connection.send command)
  onConnection (Connection.readReply shape)

/-! ## Opening a batch -/

/-- Opens a transaction, if the remote side agrees. -/
def beginTransaction : Action (Session τ) Unit := do
  requireNormal .transaction
  match ← ask beginCommand .status with
  | .boolean true => enter (.transaction [])
  | answer => throw (.unexpectedReply (.toBegin answer))

/-- Opens a pipeline, of which the remote side knows nothing. -/
def beginPipeline : Action (Session τ) Unit := do
  requireNormal .pipeline
  enter (.pipeline [] [])

/-! ## Submitting -/

/-- Submits a command inside a transaction. Its shape joins the queue as soon as the command is sent,
and leaves it again if the acknowledgement says that the remote side did not keep the command. -/
def submitQueued (queue : List Shape) (command : Command) (shape : Shape) :
    Action (Session τ) Value := do
  onConnection (Connection.send command)
  enter (.transaction (queue ++ [shape]))
  match ← onConnection (Connection.readReply .queued) with
  | .queued => pure .queued
  | .error (some message) =>
    enter (.transaction queue)
    pure (.error (some message))
  | answer =>
    enter (.transaction queue)
    throw (.unexpectedReply (.toQueued answer))

/-- Submits a command to a pipeline, where it waits. -/
def submitHeld (queue : List Shape) (outgoing : Bytes) (command : Command) (shape : Shape) :
    Action (Session τ) Value := do
  if (← get).isBroken then throw .broken
  enter (.pipeline (queue ++ [shape]) (command.encodeOnto outgoing))
  pure .queued

/-- Submits a command with the shape of its reply, and returns the reply, or that it is to come. -/
def submit (command : Command) (shape : Shape) : Action (Session τ) Value := do
  match (← get).phase with
  | .normal => ask command shape
  | .transaction queue => submitQueued queue command shape
  | .pipeline queue outgoing => submitHeld queue outgoing command shape

/-! ## Closing a batch -/

/-- Sends what a pipeline held back, if anything, and reads the replies up to the first failure. -/
def executePipeline (queue : List Shape) (outgoing : Bytes) : Action (Session τ) (List Value) := do
  if outgoing ≠ [] then onConnection (Connection.write outgoing)
  queue.mapM fun shape => onConnection (Connection.readReply shape)

/-- Has the remote side execute a transaction, and decodes the replies by position. -/
def executeTransaction (queue : List Shape) : Action (Session τ) (List Value) := do
  onConnection (Connection.send executeCommand)
  match ← onConnection Connection.readFrame with
  | .array replies =>
    if replies.length = queue.length then pure (List.zipWith Shape.decode queue replies)
    else throw (.unexpectedReply (.wrongCount replies.length queue.length))
  | .nullArray => throw (.aborted .nullReply)
  | .error line => throw (.aborted (.refused line))
  | reply => throw (.unexpectedReply (.toExecute reply))

/-- Executes the open batch and returns the replies to its commands in order. Without a batch there
are none. -/
def execute : Action (Session τ) (List Value) := do
  let phase := (← get).phase
  enter .normal
  match phase with
  | .normal => pure []
  | .transaction queue => executeTransaction queue
  | .pipeline queue outgoing => executePipeline queue outgoing

/-- Drops the open batch, on the remote side too if it knows of it. -/
def discard : Action (Session τ) Unit := do
  let phase := (← get).phase
  enter .normal
  match phase with
  | .normal | .pipeline _ _ => pure ()
  | .transaction _ =>
    match ← ask discardCommand .status with
    | .boolean true => pure ()
    | answer => throw (.unexpectedReply (.toDiscard answer))

end Session

end StoreClient
