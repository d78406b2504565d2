import StoreClient.Proofs.Connection
import StoreClient.Session.Call

/-!
# `StoreClient/Proofs/Session/Programs.lean` — the calls on a session, by the reply they get

Each call on a session is a short program with early exits. This file reads the programs once: for each
phase and each call that reaches the wire, it says what the call comes to once its reply is there. The
reply alone decides, so what is made of it is a function (`Phase.opening` and its siblings) that does
not touch the connection any more.

Above this file a proof about what a call does unfolds no program: `StoreClient/Proofs/Session/Turn.lean`
puts the equations together. Only where two programs are compared are their steps gone along once more.
-/

set_option autoImplicit false

namespace StoreClient

open StoreClient.Action

namespace Phase

/-! ## What is made of a reply -/

/-- The reply to the command that opens a transaction. -/
def opening (reply : Frame) : Except Error Answer × Phase :=
  match Shape.status.decode reply with
  | .boolean true => (.ok .done, .transaction [])
  | answer => (.error (.unexpectedReply (.toBegin answer)), .normal)

/-- The acknowledgement of a command inside a transaction. -/
def acknowledging (queue : List Shape) (shape : Shape) (reply : Frame) :
    Except Error Answer × Phase :=
  match Shape.queued.decode reply with
  | .queued => (.ok (.value .queued), .transaction (queue ++ [shape]))
  | .error (some message) => (.ok (.value (.error (some message))), .transaction queue)
  | answer => (.error (.unexpectedReply (.toQueued answer)), .transaction queue)

/-- The reply to the command that executes a transaction. -/
def committing (queue : List Shape) (reply : Frame) : Except Error (List Value) :=
  match reply with
  | .array replies =>
    if replies.length = queue.length then .ok (List.zipWith Shape.decode queue replies)
    else .error (.unexpectedReply (.wrongCount replies.length queue.length))
  | .nullArray => .error (.aborted .nullReply)
  | .error line => .error (.aborted (.refused line))
  | reply => .error (.unexpectedReply (.toExecute reply))

/-- The reply to the command that drops a transaction. -/
def dropping (reply : Frame) : Except Error Answer :=
  match Shape.status.decode reply with
  | .boolean true => .ok .done
  | answer => .error (.unexpectedReply (.toDiscard answer))

end Phase

namespace Session

/-! ## The session and its connection -/

variable {τ α β : Type}

theorem onConnection_of_ok {call : Action (Connection τ) α} {s : Session τ} {a : α}
    {c : Connection τ} (h : call s.connection = .ok a c) :
    onConnection call s = .ok a ⟨c, s.phase⟩ := by
  unfold onConnection Action.within
  rw [h]

theorem onConnection_of_error {call : Action (Connection τ) α} {s : Session τ} {e : Error}
    {c : Connection τ} (h : call s.connection = .error e c) :
    onConnection call s = .error e ⟨c, s.phase⟩ := by
  unfold onConnection Action.within
  rw [h]

theorem onConnection_pure (a : α) :
    onConnection (pure a : Action (Connection τ) α) = pure a := rfl

theorem onConnection_bind (call : Action (Connection τ) α) (next : α → Action (Connection τ) β) :
    onConnection (call >>= next) = onConnection call >>= fun a => onConnection (next a) := by
  funext s
  cases h : call s.connection with
  | ok a c =>
    rw [bind_of_ok (onConnection_of_ok h)]
    cases h' : next a c with
    | ok b d =>
      rw [onConnection_of_ok ((bind_of_ok h).trans h')]
      exact (onConnection_of_ok (s := ⟨c, s.phase⟩) h').symm
    | error e d =>
      rw [onConnection_of_error ((bind_of_ok h).trans h')]
      exact (onConnection_of_error (s := ⟨c, s.phase⟩) h').symm
  | error e c => rw [bind_of_error (onConnection_of_error h), onConnection_of_error (bind_of_error h)]

theorem enter_apply (phase : Phase) (s : Session τ) :
    enter phase s = .ok () ⟨s.connection, phase⟩ := rfl

theorem onConnection_mapM (call : β → Action (Connection τ) α) (bs : List β) :
    bs.mapM (fun b => onConnection (call b)) = onConnection (bs.mapM call) := by
  induction bs with
  | nil => simp only [List.mapM_nil, onConnection_pure]
  | cons b bs ih => simp only [List.mapM_cons, onConnection_bind, onConnection_pure, ih]

/-- Opening a batch is refused before anything else while one is open. -/
theorem requireNormal_of_batching {s : Session τ} {requested : Mode} (h : s.mode ≠ .normal) :
    requireNormal requested s = .error (.modeConflict s.mode requested) s := by
  unfold requireNormal
  rw [bind_of_ok (get_apply s), if_pos h]
  rfl

variable [Transport τ]

theorem ask_eq (command : Command) (shape : Shape) :
    (ask command shape : Action (Session τ) Value) = do
      let reply ← onConnection (Connection.exchange command)
      return shape.decode reply := by
  unfold ask Connection.exchange Connection.readReply
  simp only [onConnection_bind, onConnection_pure, bind_assoc]

theorem executePipeline_eq (queue : List Shape) (outgoing : Bytes) :
    (executePipeline queue outgoing : Action (Session τ) (List Value)) =
      onConnection (Connection.exchangeAll outgoing queue) := by
  unfold executePipeline
  rw [onConnection_mapM]
  by_cases h : outgoing = []
  · rw [if_neg (by simp [h]), h, Connection.exchangeAll_nil]
  · rw [if_pos h, Connection.exchangeAll_of_ne_nil h, onConnection_bind]

theorem step_of_ok {s s' : Session τ} {call : Call} {answer : Answer}
    (h : perform call s = .ok answer s') : s.step call = (.ok answer, s') := by
  unfold step
  rw [h]

theorem step_of_error {s s' : Session τ} {call : Call} {e : Error}
    (h : perform call s = .error e s') : s.step call = (.error e, s') := by
  unfold step
  rw [h]

/-- How a call ends on a connection, with an outcome and a phase. -/
def ending (c : Connection τ) (result : Except Error Answer × Phase) :
    EStateM.Result Error (Session τ) Answer :=
  match result.1 with
  | .ok answer => .ok answer ⟨c, result.2⟩
  | .error e => .error e ⟨c, result.2⟩

theorem step_of_perform {s : Session τ} {call : Call} {c : Connection τ}
    {result : Except Error Answer × Phase} (h : perform call s = ending c result) :
    s.step call = (result.1, ⟨c, result.2⟩) := by
  obtain ⟨outcome, phase⟩ := result
  unfold step
  rw [h]
  cases outcome <;> rfl

theorem ask_of_ok {command : Command} {shape : Shape} {c c' : Connection τ} {phase : Phase}
    {reply : Frame} (h : Connection.exchange command c = .ok reply c') :
    ask command shape ⟨c, phase⟩ = .ok (shape.decode reply) ⟨c', phase⟩ := by
  have hon : onConnection (Connection.exchange command) ⟨c, phase⟩ = .ok reply ⟨c', phase⟩ :=
    onConnection_of_ok h
  rw [ask_eq, bind_of_ok hon]
  rfl

theorem ask_of_error {command : Command} {shape : Shape} {c c' : Connection τ} {phase : Phase}
    {e : Error} (h : Connection.exchange command c = .error e c') :
    ask command shape ⟨c, phase⟩ = .error e ⟨c', phase⟩ := by
  have hon : onConnection (Connection.exchange command) ⟨c, phase⟩ = .error e ⟨c', phase⟩ :=
    onConnection_of_error h
  rw [ask_eq, bind_of_error hon]

/-! ## What each phase makes of a call -/

theorem beginTransaction_normal (c : Connection τ) :
    beginTransaction (⟨c, .normal⟩ : Session τ) =
      (ask beginCommand .status >>= fun
        | .boolean true => enter (.transaction [])
        | answer => throw (Error.unexpectedReply (.toBegin answer))) ⟨c, .normal⟩ := rfl

theorem submit_normal (command : Command) (shape : Shape) (c : Connection τ) :
    submit command shape (⟨c, .normal⟩ : Session τ) = ask command shape ⟨c, .normal⟩ := rfl

theorem submit_transaction (command : Command) (shape : Shape) (c : Connection τ)
    (queue : List Shape) :
    submit command shape (⟨c, .transaction queue⟩ : Session τ) =
      submitQueued queue command shape ⟨c, .transaction queue⟩ := rfl

theorem submit_pipeline (command : Command) (shape : Shape) (c : Connection τ)
    (queue : List Shape) (outgoing : Bytes) :
    submit command shape (⟨c, .pipeline queue outgoing⟩ : Session τ) =
      if c.broken then .error .broken ⟨c, .pipeline queue outgoing⟩
      else .ok .queued ⟨c, .pipeline (queue ++ [shape]) (command.encodeOnto outgoing)⟩ := by
  show (ite (c.broken = true) _ _ : Action (Session τ) Value) _ = _
  by_cases hb : c.broken = true
  · rw [if_pos hb, if_pos hb]
    rfl
  · rw [if_neg hb, if_neg hb]
    rfl

/-- The batch is over before anything is sent. -/
theorem execute_pipeline (c : Connection τ) (queue : List Shape) (outgoing : Bytes) :
    execute (⟨c, .pipeline queue outgoing⟩ : Session τ) =
      onConnection (Connection.exchangeAll outgoing queue) ⟨c, .normal⟩ := by
  show executePipeline queue outgoing _ = _
  rw [executePipeline_eq]

theorem discard_transaction (c : Connection τ) (queue : List Shape) :
    discard (⟨c, .transaction queue⟩ : Session τ) =
      (ask discardCommand .status >>= fun
        | .boolean true => pure ()
        | answer => throw (Error.unexpectedReply (.toDiscard answer))) ⟨c, .normal⟩ := rfl

/-! ## Each call by the reply it gets -/

theorem step_beginTransaction {c c' : Connection τ} {reply : Frame}
    (h : Connection.exchange beginCommand c = .ok reply c') :
    step (⟨c, .normal⟩ : Session τ) .beginTransaction =
      ((Phase.opening reply).1, ⟨c', (Phase.opening reply).2⟩) := by
  have hask : ask beginCommand .status (⟨c, .normal⟩ : Session τ) =
      .ok (Shape.status.decode reply) ⟨c', .normal⟩ := ask_of_ok h
  apply step_of_perform
  rw [show perform .beginTransaction (⟨c, .normal⟩ : Session τ) = _ from
    bind_congr_apply (beginTransaction_normal c), bind_assoc, bind_of_ok hask]
  unfold Phase.opening
  generalize Shape.status.decode reply = value
  cases value with
  | boolean yes => cases yes <;> rfl
  | _ => rfl

theorem submitQueued_of_read_error {c u c' : Connection τ} {queue : List Shape} {command : Command}
    {shape : Shape} {e : Error} (hsend : Connection.send command c = .ok () u)
    (hread : Connection.readFrame u = .error e c') :
    submitQueued queue command shape ⟨c, .transaction queue⟩ =
      .error e ⟨c', .transaction (queue ++ [shape])⟩ := by
  have hon : onConnection (Connection.send command) (⟨c, .transaction queue⟩ : Session τ) =
      .ok () ⟨u, .transaction queue⟩ := onConnection_of_ok hsend
  have hreply : Connection.readReply .queued u = .error e c' := bind_of_error hread
  -- The command is out and its shape is in the queue when the reading fails.
  rw [submitQueued, bind_of_ok hon, bind_of_ok (enter_apply _ _)]
  exact bind_of_error (onConnection_of_error hreply)

theorem step_submit_unsent {c c' : Connection τ} {queue : List Shape} {command : Command} {shape : Shape}
    {e : Error} (hsend : Connection.send command c = .error e c') :
    step (⟨c, .transaction queue⟩ : Session τ) (.submit command shape) =
      (.error e, ⟨c', .transaction queue⟩) := by
  have hon : onConnection (Connection.send command) (⟨c, .transaction queue⟩ : Session τ) =
      .error e ⟨c', .transaction queue⟩ := onConnection_of_error hsend
  have hsubmit : submit command shape (⟨c, .transaction queue⟩ : Session τ) =
      .error e ⟨c', .transaction queue⟩ :=
    (submit_transaction command shape c queue).trans (bind_of_error hon)
  exact step_of_error (bind_of_error hsubmit)

theorem step_submit_unheard {c u c' : Connection τ} {queue : List Shape} {command : Command}
    {shape : Shape} {e : Error} (hsend : Connection.send command c = .ok () u)
    (hread : Connection.readFrame u = .error e c') :
    step (⟨c, .transaction queue⟩ : Session τ) (.submit command shape) =
      (.error e, ⟨c', .transaction (queue ++ [shape])⟩) :=
  step_of_error (bind_of_error (submitQueued_of_read_error hsend hread))

theorem step_submit_transaction {c u c' : Connection τ} {queue : List Shape} {command : Command}
    {shape : Shape} {reply : Frame} (hsend : Connection.send command c = .ok () u)
    (hread : Connection.readFrame u = .ok reply c') :
    step (⟨c, .transaction queue⟩ : Session τ) (.submit command shape) =
      ((Phase.acknowledging queue shape reply).1,
        ⟨c', (Phase.acknowledging queue shape reply).2⟩) := by
  have hon : onConnection (Connection.send command) (⟨c, .transaction queue⟩ : Session τ) =
      .ok () ⟨u, .transaction queue⟩ := onConnection_of_ok hsend
  have hreply : onConnection (Connection.readReply .queued)
      (⟨u, .transaction (queue ++ [shape])⟩ : Session τ) =
      .ok (Shape.queued.decode reply) ⟨c', .transaction (queue ++ [shape])⟩ :=
    onConnection_of_ok (bind_of_ok hread)
  apply step_of_perform
  rw [show perform (.submit command shape) (⟨c, .transaction queue⟩ : Session τ) = _ from
    bind_congr_apply (submit_transaction command shape c queue), submitQueued, bind_assoc,
    bind_of_ok hon, bind_assoc, bind_of_ok (enter_apply _ _), bind_assoc, bind_of_ok hreply]
  unfold Phase.acknowledging
  generalize Shape.queued.decode reply = value
  cases value with
  | error message => cases message <;> rfl
  | _ => rfl

theorem executeTransaction_eq (queue : List Shape) :
    (executeTransaction queue : Action (Session τ) (List Value)) =
      (do
        let reply ← onConnection (Connection.exchange executeCommand)
        match Phase.committing queue reply with
        | .ok values => pure values
        | .error e => throw e) := by
  unfold executeTransaction Connection.exchange
  rw [onConnection_bind, bind_assoc]
  congr 1
  funext _
  congr 1
  funext reply
  cases reply with
  | array replies =>
    unfold Phase.committing
    by_cases h : replies.length = queue.length
    · simp only [if_pos h]
    · simp only [if_neg h]
  | _ => rfl

theorem step_execute_transaction {c c' : Connection τ} {queue : List Shape} {reply : Frame}
    (h : Connection.exchange executeCommand c = .ok reply c') :
    step (⟨c, .transaction queue⟩ : Session τ) .execute =
      ((Phase.committing queue reply).map .values, ⟨c', .normal⟩) := by
  have hexecute : execute (⟨c, .transaction queue⟩ : Session τ) =
      executeTransaction queue ⟨c, .normal⟩ := rfl
  have hon : onConnection (Connection.exchange executeCommand) (⟨c, .normal⟩ : Session τ) =
      .ok reply ⟨c', .normal⟩ := onConnection_of_ok h
  rw [executeTransaction_eq, bind_of_ok hon] at hexecute
  cases hcommit : Phase.committing queue reply with
  | ok values =>
    rw [hcommit] at hexecute
    exact step_of_ok (bind_of_ok hexecute)
  | error e =>
    rw [hcommit] at hexecute
    exact step_of_error (bind_of_error hexecute)

theorem step_discard_transaction {c c' : Connection τ} {queue : List Shape} {reply : Frame}
    (h : Connection.exchange discardCommand c = .ok reply c') :
    step (⟨c, .transaction queue⟩ : Session τ) .discard =
      (Phase.dropping reply, ⟨c', .normal⟩) := by
  have hask : ask discardCommand .status (⟨c, .normal⟩ : Session τ) =
      .ok (Shape.status.decode reply) ⟨c', .normal⟩ := ask_of_ok h
  show _ = ((Phase.dropping reply, Phase.normal).1, _)
  refine step_of_perform ?_
  rw [show perform .discard (⟨c, .transaction queue⟩ : Session τ) = _ from
    bind_congr_apply (discard_transaction c queue), bind_assoc, bind_of_ok hask]
  unfold Phase.dropping
  generalize Shape.status.decode reply = value
  cases value with
  | boolean yes => cases yes <;> rfl
  | _ => rfl

end Session

end StoreClient
