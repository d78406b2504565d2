import StoreClient.Proofs.Session.Programs
import StoreClient.Transport.Recorder

/-!
# `StoreClient/Proofs/Session/Turn.lean` — what one call on a session can do

Everything that is proved about runs is proved about one call first, so this file says once what one call
can do: `Turn s call outcome s'` lists **every way** in which a call on `s` ends with an outcome and a
session `s'`, and `turn_of_step` is the proof that there is no other. Proofs about sessions are by cases on
it and do not look at the programs again.

Two facts keep the list short. Most calls that reach the wire send one command and read one reply
(`Call.command?` says which), and what they make of the reply does not touch the connection any more
(`Phase.conclude`). The one exception is the execution of a pipeline.
-/

set_option autoImplicit false

namespace StoreClient

open StoreClient.Action

/-- The command that a call puts on the wire at once, by the mode of the session. -/
def Call.command? : Mode → Call → Option Command
  | .normal, .beginTransaction => some Session.beginCommand
  | .normal, .submit command _ => some command
  | .transaction, .submit command _ => some command
  | .transaction, .execute => some Session.executeCommand
  | .transaction, .discard => some Session.discardCommand
  | _, _ => none

/-- A pipeline puts nothing on the wire until it is executed. -/
theorem Call.command?_pipeline (call : Call) : call.command? .pipeline = none := by
  cases call <;> rfl

/-- The mode that a call opens. -/
def Call.opens? : Call → Option Mode
  | .beginTransaction => some .transaction
  | .beginPipeline => some .pipeline
  | _ => none

/-- Inside a batch, a call that would open one puts nothing on the wire either. -/
theorem Call.command?_of_opens {call : Call} {mode requested : Mode} (batching : mode ≠ .normal)
    (opens : call.opens? = some requested) : call.command? mode = none := by
  cases call with
  | beginTransaction => cases mode <;> first | rfl | exact absurd rfl batching
  | beginPipeline => cases mode <;> rfl
  | _ => cases opens

namespace Phase

/-- The outcome of a call that sent a command, and the phase after it, by the reply. -/
def conclude (phase : Phase) (call : Call) (reply : Frame) : Except Error Answer × Phase :=
  match phase, call with
  | .normal, .beginTransaction => opening reply
  | .normal, .submit _ shape => (.ok (.value (shape.decode reply)), .normal)
  | .transaction queue, .submit _ shape => acknowledging queue shape reply
  | .transaction queue, .execute => ((committing queue reply).map .values, .normal)
  | .transaction _, .discard => (dropping reply, .normal)
  | phase, _ => (.ok .done, phase)

/-- The phase after a call whose command was not answered: a batch that was to be closed is closed all
the same. -/
def abandon (phase : Phase) : Call → Phase
  | .execute | .discard => .normal
  | _ => phase

end Phase

namespace Session

/-- One call on a session, its outcome, and the session after it. -/
inductive Turn {τ : Type} [Transport τ] : Session τ → Call → Except Error Answer → Session τ → Prop where
  -- Without the wire.
  | conflict {s : Session τ} {call : Call} {requested : Mode} (batching : s.mode ≠ .normal)
      (opens : call.opens? = some requested) : Turn s call (.error (.modeConflict s.mode requested)) s
  | opened {c : Connection τ} : Turn ⟨c, .normal⟩ .beginPipeline (.ok .done) ⟨c, .pipeline [] []⟩
  | held {c : Connection τ} {queue : List Shape} {outgoing : Bytes} {command : Command} {shape : Shape}
      (usable : c.broken = false) :
      Turn ⟨c, .pipeline queue outgoing⟩ (.submit command shape) (.ok (.value .queued))
        ⟨c, .pipeline (queue ++ [shape]) (command.encodeOnto outgoing)⟩
  | refused {c : Connection τ} {queue : List Shape} {outgoing : Bytes} {command : Command}
      {shape : Shape} (broken : c.broken = true) :
      Turn ⟨c, .pipeline queue outgoing⟩ (.submit command shape) (.error .broken)
        ⟨c, .pipeline queue outgoing⟩
  | idle {c : Connection τ} : Turn ⟨c, .normal⟩ .execute (.ok (.values [])) ⟨c, .normal⟩
  | dropped {c : Connection τ} {phase : Phase} (untold : phase.mode ≠ .transaction) :
      Turn ⟨c, phase⟩ .discard (.ok .done) ⟨c, .normal⟩
  -- One command and one reply.
  | answered {c c' : Connection τ} {phase : Phase} {call : Call} {command : Command} {reply : Frame}
      (sends : call.command? phase.mode = some command)
      (exchanged : Connection.exchange command c = .ok reply c') :
      Turn ⟨c, phase⟩ call (phase.conclude call reply).1 ⟨c', (phase.conclude call reply).2⟩
  | unanswered {c c' : Connection τ} {phase : Phase} {call : Call} {command : Command} {e : Error}
      (sends : call.command? phase.mode = some command)
      (failed : Connection.exchange command c = .error e c') :
      Turn ⟨c, phase⟩ call (.error e) ⟨c', phase.abandon call⟩
  -- A command inside a transaction whose acknowledgement cannot be read leaves its shape behind.
  | stranded {c c' : Connection τ} {queue : List Shape} {command : Command} {shape : Shape} {e : Error}
      (failed : Connection.exchange command c = .error e c') :
      Turn ⟨c, .transaction queue⟩ (.submit command shape) (.error e)
        ⟨c', .transaction (queue ++ [shape])⟩
  -- All commands of a pipeline and all replies.
  | executed {c c' : Connection τ} {queue : List Shape} {outgoing : Bytes} {values : List Value}
      (exchanged : Connection.exchangeAll outgoing queue c = .ok values c') :
      Turn ⟨c, .pipeline queue outgoing⟩ .execute (.ok (.values values)) ⟨c', .normal⟩
  | collapsed {c c' : Connection τ} {queue : List Shape} {outgoing : Bytes} {e : Error}
      (failed : Connection.exchangeAll outgoing queue c = .error e c') :
      Turn ⟨c, .pipeline queue outgoing⟩ .execute (.error e) ⟨c', .normal⟩

variable {τ : Type} [Transport τ]

/-! ## There is no other way -/

theorem turn_beginTransaction (s : Session τ) :
    Turn s .beginTransaction (s.step .beginTransaction).1 (s.step .beginTransaction).2 := by
  by_cases hmode : s.mode = .normal
  · obtain ⟨c, phase⟩ := s
    cases phase with
    | normal =>
      cases hx : Connection.exchange beginCommand c with
      | ok reply c' =>
        rw [step_beginTransaction hx]
        exact .answered rfl hx
      | error e c' =>
        have hask : ask beginCommand .status (⟨c, .normal⟩ : Session τ) = .error e ⟨c', .normal⟩ :=
          ask_of_error hx
        have hbegin : beginTransaction (⟨c, .normal⟩ : Session τ) = .error e ⟨c', .normal⟩ :=
          (beginTransaction_normal c).trans (bind_of_error hask)
        rw [step_of_error (bind_of_error hbegin)]
        exact .unanswered rfl hx
    | transaction queue => cases hmode
    | pipeline queue outgoing => cases hmode
  · have hbegin : beginTransaction s = .error (.modeConflict s.mode .transaction) s :=
      bind_of_error (requireNormal_of_batching hmode)
    rw [step_of_error (bind_of_error hbegin)]
    exact .conflict hmode rfl

theorem turn_beginPipeline (s : Session τ) :
    Turn s .beginPipeline (s.step .beginPipeline).1 (s.step .beginPipeline).2 := by
  by_cases hmode : s.mode = .normal
  · obtain ⟨c, phase⟩ := s
    cases phase with
    | normal => exact .opened
    | transaction queue => cases hmode
    | pipeline queue outgoing => cases hmode
  · have hbegin : beginPipeline s = .error (.modeConflict s.mode .pipeline) s :=
      bind_of_error (requireNormal_of_batching hmode)
    rw [step_of_error (bind_of_error hbegin)]
    exact .conflict hmode rfl

theorem turn_submit (s : Session τ) (command : Command) (shape : Shape) :
    Turn s (.submit command shape) (s.step (.submit command shape)).1
      (s.step (.submit command shape)).2 := by
  obtain ⟨c, phase⟩ := s
  cases phase with
  | normal =>
    cases hx : Connection.exchange command c with
    | ok reply c' =>
      have hask : submit command shape (⟨c, .normal⟩ : Session τ) =
          .ok (shape.decode reply) ⟨c', .normal⟩ :=
        (submit_normal command shape c).trans (ask_of_ok hx)
      rw [step_of_ok (bind_of_ok hask)]
      exact .answered rfl hx
    | error e c' =>
      have hask : submit command shape (⟨c, .normal⟩ : Session τ) = .error e ⟨c', .normal⟩ :=
        (submit_normal command shape c).trans (ask_of_error hx)
      rw [step_of_error (bind_of_error hask)]
      exact .unanswered rfl hx
  | transaction queue =>
    cases hsend : Connection.send command c with
    | ok _ u =>
      cases hread : Connection.readFrame u with
      | ok reply c' =>
        rw [step_submit_transaction hsend hread]
        exact .answered rfl ((bind_of_ok hsend).trans hread)
      | error e c' =>
        rw [step_submit_unheard hsend hread]
        exact .stranded ((bind_of_ok hsend).trans hread)
    | error e c' =>
      rw [step_submit_unsent hsend]
      exact .unanswered rfl (bind_of_error hsend)
  | pipeline queue outgoing =>
    cases hb : c.broken with
    | true =>
      have hsubmit : submit command shape (⟨c, .pipeline queue outgoing⟩ : Session τ) =
          .error .broken ⟨c, .pipeline queue outgoing⟩ := by
        rw [submit_pipeline, if_pos hb]
      rw [step_of_error (bind_of_error hsubmit)]
      exact .refused hb
    | false =>
      have hsubmit : submit command shape (⟨c, .pipeline queue outgoing⟩ : Session τ) =
          .ok .queued ⟨c, .pipeline (queue ++ [shape]) (command.encodeOnto outgoing)⟩ := by
        rw [submit_pipeline, if_neg (by simp [hb])]
      rw [step_of_ok (bind_of_ok hsubmit)]
      exact .held hb

theorem turn_execute (s : Session τ) : Turn s .execute (s.step .execute).1 (s.step .execute).2 := by
  obtain ⟨c, phase⟩ := s
  cases phase with
  | normal => exact .idle
  | transaction queue =>
    cases hx : Connection.exchange executeCommand c with
    | ok reply c' =>
      rw [step_execute_transaction hx]
      exact .answered rfl hx
    | error e c' =>
      have hon : onConnection (Connection.exchange executeCommand) (⟨c, .normal⟩ : Session τ) =
          .error e ⟨c', .normal⟩ := onConnection_of_error hx
      have hexecute : execute (⟨c, .transaction queue⟩ : Session τ) = .error e ⟨c', .normal⟩ := by
        show executeTransaction queue _ = _
        rw [executeTransaction_eq, bind_of_error hon]
      rw [step_of_error (bind_of_error hexecute)]
      exact .unanswered rfl hx
  | pipeline queue outgoing =>
    have hexecute := execute_pipeline c queue outgoing
    cases hx : Connection.exchangeAll outgoing queue c with
    | ok values c' =>
      have hon := hexecute.trans (onConnection_of_ok (s := ⟨c, .normal⟩) hx)
      rw [step_of_ok (bind_of_ok hon)]
      exact .executed hx
    | error e c' =>
      have hon := hexecute.trans (onConnection_of_error (s := ⟨c, .normal⟩) hx)
      rw [step_of_error (bind_of_error hon)]
      exact .collapsed hx

theorem turn_discard (s : Session τ) : Turn s .discard (s.step .discard).1 (s.step .discard).2 := by
  obtain ⟨c, phase⟩ := s
  cases phase with
  | normal => exact .dropped (by decide)
  | transaction queue =>
    cases hx : Connection.exchange discardCommand c with
    | ok reply c' =>
      rw [step_discard_transaction hx]
      exact .answered rfl hx
    | error e c' =>
      have hask : ask discardCommand .status (⟨c, .normal⟩ : Session τ) = .error e ⟨c', .normal⟩ :=
        ask_of_error hx
      have hdiscard : discard (⟨c, .transaction queue⟩ : Session τ) = .error e ⟨c', .normal⟩ :=
        (discard_transaction c queue).trans (bind_of_error hask)
      rw [step_of_error (bind_of_error hdiscard)]
      exact .unanswered rfl hx
  | pipeline queue outgoing => exact .dropped (by simp [Phase.mode])

/-- Every call is one of the turns. -/
theorem turn_of_step (s : Session τ) (call : Call) :
    Turn s call (s.step call).1 (s.step call).2 := by
  cases call with
  | beginTransaction => exact turn_beginTransaction s
  | beginPipeline => exact turn_beginPipeline s
  | submit command shape => exact turn_submit s command shape
  | execute => exact turn_execute s
  | discard => exact turn_discard s

theorem Turn.of_step {s s' : Session τ} {call : Call} {outcome : Except Error Answer}
    (h : s.step call = (outcome, s')) : Turn s call outcome s' := by
  have hturn := turn_of_step s call
  rwa [h] at hturn

/-- A call that sends a command ends as the reply says, if there is one. -/
theorem step_answered {c c' : Connection τ} {phase : Phase} {call : Call} {command : Command}
    {reply : Frame} (sends : call.command? phase.mode = some command)
    (exchanged : Connection.exchange command c = .ok reply c') :
    step (⟨c, phase⟩ : Session τ) call =
      ((phase.conclude call reply).1, ⟨c', (phase.conclude call reply).2⟩) := by
  have hturn := turn_of_step (⟨c, phase⟩ : Session τ) call
  generalize step (⟨c, phase⟩ : Session τ) call = result at hturn ⊢
  obtain ⟨outcome, s'⟩ := result
  -- No other turn sends a command, and to send it has one outcome.
  cases hturn with
  | conflict batching opens => cases sends.symm.trans (Call.command?_of_opens batching opens)
  | dropped untold => cases phase <;> first | exact absurd rfl untold | cases sends
  | answered sends' exchanged' =>
    cases sends.symm.trans sends'
    cases exchanged.symm.trans exchanged'
    rfl
  | unanswered sends' failed =>
    cases sends.symm.trans sends'
    cases exchanged.symm.trans failed
  | stranded failed =>
    cases sends
    cases exchanged.symm.trans failed
  | _ => cases sends

/-! ## From one call to a run -/

theorem run_nil (s : Session τ) : s.run [] = ([], s) := rfl

theorem run_cons (s : Session τ) (call : Call) (calls : List Call) :
    s.run (call :: calls) =
      ((s.step call).1 :: ((s.step call).2.run calls).1, ((s.step call).2.run calls).2) := rfl

/-- What holds at the start and is kept by every turn holds after every run. -/
theorem run_preserves {P : Session τ → Prop}
    (hturn : ∀ s call outcome s', Turn s call outcome s' → P s → P s') {s : Session τ} (h : P s)
    (calls : List Call) : P (s.run calls).2 := by
  induction calls generalizing s with
  | nil => exact h
  | cons call calls ih => exact ih (hturn s call _ _ (turn_of_step s call) h)

/-- A new session on a new connection over a watched transport. -/
def fresh (transport : τ) (limits : Limits) : Session (Recorder τ) :=
  { connection := .ofTransport ⟨transport, []⟩ limits }

end Session

end StoreClient
