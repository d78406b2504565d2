import StoreClient.Session.Call

/-!
# `StoreClient/Session/Flat.lean` — a session as fields side by side

A `Session` has its batch inside its phase, so a batch goes when its phase goes. A session may as well be kept
as fields side by side: the mode, the queue and the bytes held back, each of them there in every mode, and
each changed by itself. Then it is up to the calls that nothing stays behind. To open a batch sets the mode
and **nothing else**, so what the new batch starts with is whatever the calls before it left; and there is
one place where the fields are emptied (`reset`), before the calls that close a batch send or read anything.

This is that form. Its calls make the same steps in the same order as those of `Session`, with the queue and
the bytes changed in place. What has to be said of the fields (which of them is empty when, and that they
belong to one another) can be said here and cannot be true by the form of the state alone. That the two forms
are the same session is `StoreClient/Proofs/Session/Flat.lean`.
-/

set_option autoImplicit false

namespace StoreClient

/-- A session over a connection, in fields that do not know of each other. -/
structure FlatSession (τ : Type) where
  connection : Connection τ
  mode : Mode := .normal
  /-- The shapes of the replies that are still to come, oldest first. -/
  queue : List Shape := []
  /-- The commands that are held back, as they will be sent. -/
  outgoing : Bytes := []

namespace FlatSession

variable {τ : Type}

/-- How many commands wait for the execution of the batch. -/
def pending (s : FlatSession τ) : Nat := s.queue.length

/-- Whether the connection is out of use. -/
def isBroken (s : FlatSession τ) : Bool := s.connection.broken

/-! ## The fields -/

/-- A call on the connection. -/
def onConnection {α : Type} (call : Action (Connection τ) α) : Action (FlatSession τ) α :=
  Action.within FlatSession.connection (fun connection s => { s with connection }) call

/-- Sets the mode, and leaves the queue and the bytes as they are. -/
def setMode (mode : Mode) : Action (FlatSession τ) Unit :=
  modify fun s => { s with mode }

/-- A shape joins the queue. -/
def push (shape : Shape) : Action (FlatSession τ) Unit :=
  modify fun s => { s with queue := s.queue ++ [shape] }

/-- The newest shape leaves the queue. -/
def pop : Action (FlatSession τ) Unit :=
  modify fun s => { s with queue := s.queue.dropLast }

/-- A command joins those that are held back. -/
def hold (command : Command) : Action (FlatSession τ) Unit :=
  modify fun s => { s with outgoing := command.encodeOnto s.outgoing }

/-- Back to normal mode; what was queued and what was held back is handed out. -/
def reset : Action (FlatSession τ) (List Shape × Bytes) := do
  let s ← get
  set { s with mode := .normal, queue := [], outgoing := [] }
  return (s.queue, s.outgoing)

/-- Refuses to open a batch while one is open. -/
def requireNormal (requested : Mode) : Action (FlatSession τ) Unit := do
  let active := (← get).mode
  if active ≠ .normal then throw (.modeConflict active requested)

variable [Transport τ]

/-- Sends a command and reads its reply. -/
def ask (command : Command) (shape : Shape) : Action (FlatSession τ) Value := do
  onConnection (Connection.send command)
  onConnection (Connection.readReply shape)

/-! ## Opening a batch -/

def beginTransaction : Action (FlatSession τ) Unit := do
  requireNormal .transaction
  match ← ask Session.beginCommand .status with
  | .boolean true => setMode .transaction
  | answer => throw (.unexpectedReply (.toBegin answer))

def beginPipeline : Action (FlatSession τ) Unit := do
  requireNormal .pipeline
  setMode .pipeline

/-! ## Submitting -/

def submitHeld (command : Command) (shape : Shape) : Action (FlatSession τ) Value := do
  if (← get).isBroken then throw .broken
  hold command
  push shape
  pure .queued

def submitQueued (command : Command) (shape : Shape) : Action (FlatSession τ) Value := do
  onConnection (Connection.send command)
  push shape
  match ← onConnection (Connection.readReply .queued) with
  | .queued => pure .queued
  | .error (some message) =>
    pop
    pure (.error (some message))
  | answer =>
    pop
    throw (.unexpectedReply (.toQueued answer))

def submit (command : Command) (shape : Shape) : Action (FlatSession τ) Value := do
  match (← get).mode with
  | .normal => ask command shape
  | .pipeline => submitHeld command shape
  | .transaction => submitQueued command shape

/-! ## Closing a batch -/

def executePipeline (queue : List Shape) (outgoing : Bytes) : Action (FlatSession τ) (List Value) := do
  if outgoing ≠ [] then onConnection (Connection.write outgoing)
  queue.mapM fun shape => onConnection (Connection.readReply shape)

def executeTransaction (queue : List Shape) : Action (FlatSession τ) (List Value) := do
  onConnection (Connection.send Session.executeCommand)
  match ← onConnection Connection.readFrame with
  | .array replies =>
    if replies.length = queue.length then pure (List.zipWith Shape.decode queue replies)
    else throw (.unexpectedReply (.wrongCount replies.length queue.length))
  | .nullArray => throw (.aborted .nullReply)
  | .error line => throw (.aborted (.refused line))
  | reply => throw (.unexpectedReply (.toExecute reply))

/-- Executes the open batch with what was handed out when the fields were emptied. -/
def execute : Action (FlatSession τ) (List Value) := do
  let mode := (← get).mode
  let (queue, outgoing) ← reset
  match mode with
  | .normal => pure []
  | .pipeline => executePipeline queue outgoing
  | .transaction => executeTransaction queue

def discard : Action (FlatSession τ) Unit := do
  let mode := (← get).mode
  let _ ← reset
  if mode ≠ .transaction then pure ()
  else
    match ← ask Session.discardCommand .status with
    | .boolean true => pure ()
    | answer => throw (.unexpectedReply (.toDiscard answer))

/-! ## Calls and runs -/

/-- Makes a call. -/
def perform : Call → Action (FlatSession τ) Answer
  | .beginTransaction => do beginTransaction; pure .done
  | .beginPipeline => do beginPipeline; pure .done
  | .submit command shape => return .value (← submit command shape)
  | .execute => return .values (← execute)
  | .discard => do discard; pure .done

/-- The outcome of a call and the session after it. -/
def step (s : FlatSession τ) (call : Call) : Except Error Answer × FlatSession τ :=
  match perform call s with
  | .ok answer s => (.ok answer, s)
  | .error e s => (.error e, s)

/-- The outcomes of calls made one after the other, and the session after them. -/
def run (s : FlatSession τ) : List Call → List (Except Error Answer) × FlatSession τ
  | [] => ([], s)
  | call :: calls =>
    let (outcome, s) := s.step call
    let (outcomes, s) := s.run calls
    (outcome :: outcomes, s)

end FlatSession

end StoreClient
