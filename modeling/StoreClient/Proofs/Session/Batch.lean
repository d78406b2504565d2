import StoreClient.Proofs.Connection.Footprint
import StoreClient.Proofs.Session.Flat
import StoreClient.Proofs.Session.Ledger

/-!
# `StoreClient/Proofs/Session/Batch.lean` — one batch never leaks into the next

What a session should have gathered can be told from outside: the commands that it took in since a batch
was opened, by the calls and their outcomes alone. That is a `Batch`. A session that is opened, refused,
executed, dropped, broken and opened again in any order must keep to it: a byte or a shape too many
would belong to a batch that is over.

**In a pipeline the session holds exactly its batch** (`Gathers.step`): one shape for each command, and the
encodings of the same commands, in the order of submission. The rest follows from there: no reply is
waited for unless its command has been sent.

The law of batches is about a session as fields side by side (`FlatSession`), of which any could keep
something that is not its own. What a session gathers is proved on its phases, where there is less to look
at, and shown as fields at the end.
-/

set_option autoImplicit false

namespace StoreClient

open Connection

/-- The commands that were taken in since a batch was opened, with the shapes of their replies. -/
abbrev Batch := List (Command × Shape)

namespace Batch

def after (batch : Batch) : Call → Except Error Answer → Batch
  | .beginTransaction, .ok _ | .beginPipeline, .ok _ => []
  | .submit command shape, .ok (.value .queued) => batch ++ [(command, shape)]
  | _, _ => batch

/-- The batch after calls that were made one after the other and had these outcomes. -/
def follow (batch : Batch) : List Call → List (Except Error Answer) → Batch
  | call :: calls, outcome :: outcomes => (batch.after call outcome).follow calls outcomes
  | _, _ => batch

theorem after_error (batch : Batch) (call : Call) (e : Error) : batch.after call (.error e) = batch := by
  cases call <;> rfl

end Batch

/-! ## What a phase holds, by its mode -/

theorem waiting_pipeline_iff {phase : Phase} {batch : Batch} (h : phase.mode = .pipeline) :
    Waiting phase batch ↔
      phase.queue = batch.map Prod.snd ∧ phase.outgoing = batch.flatMap fun p => p.1.encode := by
  cases phase with
  | pipeline queue outgoing => exact Iff.rfl
  | _ => cases h

namespace Session

variable {τ : Type} [Transport τ]

/-! ## From one call to a run -/

/-- What holds of a session and its batch at the start and is kept by every call holds after all of them. -/
theorem run_follows {P : Session τ → Batch → Prop} (calls : List Call)
    (hstep : ∀ call ∈ calls, ∀ s batch, P s batch →
      P (s.step call).2 (batch.after call (s.step call).1))
    {s : Session τ} {batch : Batch} (h : P s batch) :
    P (s.run calls).2 (batch.follow calls (s.run calls).1) := by
  -- On the calls, from the first one on: what is left to do starts from the session and the batch after it.
  induction calls generalizing s batch with
  | nil => exact h
  | cons call calls ih =>
    have hnext := hstep call List.mem_cons_self s batch h
    exact ih (fun call' hcall' => hstep call' (List.mem_cons_of_mem call hcall')) hnext

/-! ## The calls that close a batch, and those that are refused inside one -/

theorem Turn.closes {s s' : Session τ} {call : Call} {outcome : Except Error Answer}
    (h : Turn s call outcome s') (hcall : call = .execute ∨ call = .discard) : s'.phase = .normal := by
  cases h with
  | conflict batching opens => rcases hcall with rfl | rfl <;> cases opens
  | @answered c c' phase call command reply sends exchanged =>
    cases phase with
    | normal => rcases hcall with rfl | rfl <;> cases sends
    | transaction queue => rcases hcall with rfl | rfl <;> rfl
    | pipeline queue outgoing => cases call.command?_pipeline.symm.trans sends
  | unanswered sends failed => rcases hcall with rfl | rfl <;> rfl
  | opened | held | refused | stranded => simp at hcall
  | _ => rfl

theorem Turn.conflicts {s s' : Session τ} {call : Call} {outcome : Except Error Answer} {requested : Mode}
    (h : Turn s call outcome s') (batching : s.mode ≠ .normal) (opens : call.opens? = some requested) :
    outcome = .error (.modeConflict s.mode requested) ∧ s' = s := by
  cases h with
  | conflict _ opens' =>
    cases opens.symm.trans opens'
    exact ⟨rfl, rfl⟩
  | opened => exact absurd rfl batching
  | answered sends exchanged => cases sends.symm.trans (Call.command?_of_opens batching opens)
  | unanswered sends failed => cases sends.symm.trans (Call.command?_of_opens batching opens)
  | _ => cases opens

theorem Turn.execute_pipeline {c : Connection τ} {queue : List Shape} {outgoing : Bytes}
    {outcome : Except Error Answer} {s' : Session τ}
    (h : Turn ⟨c, .pipeline queue outgoing⟩ .execute outcome s') :
    (∃ values, exchangeAll outgoing queue c = .ok values s'.connection ∧
        outcome = .ok (.values values)) ∨
      ∃ e, exchangeAll outgoing queue c = .error e s'.connection ∧ outcome = .error e := by
  cases h with
  | conflict batching opens => cases opens
  | answered sends exchanged => cases sends
  | unanswered sends failed => cases sends
  | executed exchanged => exact .inl ⟨_, exchanged, rfl⟩
  | collapsed failed => exact .inr ⟨_, failed, rfl⟩

/-! ## What a session holds -/

/-- In a pipeline, the session holds the batch; elsewhere nothing is asked. -/
def Gathers (s : Session τ) (batch : Batch) : Prop :=
  s.mode = .pipeline → Waiting s.phase batch

/-- A call that sends its command at once neither starts nor ends in a pipeline. -/
theorem mode_conclude {phase : Phase} {call : Call} {command : Command}
    (sends : call.command? phase.mode = some command) (reply : Frame) :
    (phase.conclude call reply).2.mode ≠ .pipeline := by
  cases phase with
  | pipeline queue outgoing => cases call.command?_pipeline.symm.trans sends
  | normal =>
    cases call with
    | beginTransaction =>
      show (Phase.opening reply).2.mode ≠ _
      unfold Phase.opening
      split <;> simp [Phase.mode]
    | _ => simp [Phase.conclude, Phase.mode]
  | transaction queue =>
    cases call with
    | submit command shape =>
      show (Phase.acknowledging queue shape reply).2.mode ≠ _
      unfold Phase.acknowledging
      split <;> simp [Phase.mode]
    | _ => simp [Phase.conclude, Phase.mode]

theorem Gathers.turn {s s' : Session τ} {batch : Batch} {call : Call} {outcome : Except Error Answer}
    (h : Gathers s batch) (hturn : Turn s call outcome s') : Gathers s' (batch.after call outcome) := by
  intro hmode
  cases hturn with
  | conflict batching opens =>
    rw [Batch.after_error]
    exact h hmode
  | opened => exact ⟨rfl, rfl⟩
  | @held c queue outgoing command shape usable =>
    have hwaiting : Waiting (.pipeline queue outgoing) batch := h rfl
    exact hwaiting.held command shape
  | refused broken => exact h rfl
  | answered sends exchanged => exact absurd hmode (mode_conclude sends _)
  | @unanswered c c' phase call command e sends failed =>
    -- The phase is not a pipeline, and to abandon it makes it none.
    cases phase with
    | pipeline queue outgoing => cases call.command?_pipeline.symm.trans sends
    | _ => cases call <;> cases hmode
  | _ => cases hmode

theorem Gathers.step {s : Session τ} {batch : Batch} (h : Gathers s batch) (call : Call) :
    Gathers (s.step call).2 (batch.after call (s.step call).1) :=
  h.turn (turn_of_step s call)

/-! ## Sending first, and reading as many replies -/

theorem length_of_exchangeAll {outgoing : Bytes} {queue : List Shape} {values : List Value}
    {c c' : Connection τ} (h : exchangeAll outgoing queue c = .ok values c') :
    values.length = queue.length := by
  by_cases hout : outgoing = []
  · rw [hout, exchangeAll_nil] at h
    exact Action.length_of_mapM h
  · rw [exchangeAll_of_ne_nil hout] at h
    obtain ⟨_, u, _, h⟩ := Action.bind_eq_ok.mp h
    exact Action.length_of_mapM h

end Session

namespace FlatSession

variable {τ : Type} [Transport τ]

/-- The execution of a pipeline sends before it reads, and reads nothing unless all that was held back
went out. If it returns, each command has its value. -/
structure SendsFirst (s : FlatSession (Recorder τ)) : Prop where
  order : ∃ writes reads, Outward writes ∧ Inward reads ∧
    (s.step .execute).2.connection.log = reads ++ (writes ++ s.connection.log) ∧
    (reads ≠ [] → writes.reverse.flatMap Event.bytesSent = s.outgoing)
  each : ∀ values, (s.step .execute).1 = .ok (.values values) → values.length = s.pending

theorem sendsFirst {s : Session (Recorder τ)} (hmode : s.mode = .pipeline) : SendsFirst s.flat := by
  obtain ⟨c, phase⟩ := s
  cases phase with
  | pipeline queue outgoing =>
    have hturn := Session.turn_of_step (⟨c, .pipeline queue outgoing⟩ : Session (Recorder τ)) .execute
    have hturn := hturn.execute_pipeline
    obtain ⟨writes, hwrites, _, hends⟩ := exchangeAll_log outgoing queue c
    -- Whether the exchange returned or failed, its log is the same.
    have hlog : ∃ reads, Inward reads ∧
        (Session.step (⟨c, .pipeline queue outgoing⟩ : Session (Recorder τ)) .execute).2.connection.log =
          reads ++ (writes ++ c.log) ∧ (reads ≠ [] → Sending outgoing writes) := by
      rcases hturn with ⟨values, hx, _⟩ | ⟨e, hx, _⟩ <;> rwa [hx] at hends
    obtain ⟨reads, hreads, hlog, hsending⟩ := hlog
    refine ⟨⟨writes, reads, hwrites, hreads, ?_, fun h => (hsending h).bytesSent⟩, ?_⟩
    · rw [step_flat]
      exact hlog
    · intro values hvalues
      rw [step_flat] at hvalues
      rcases hturn with ⟨values', hx, houtcome⟩ | ⟨e, _, houtcome⟩
      · cases houtcome.symm.trans hvalues
        exact Session.length_of_exchangeAll hx
      · cases houtcome.symm.trans hvalues
  | _ => cases hmode

/-! ## Every batch by itself -/

/-- A session as fields, and the batch that it should have gathered. -/
structure Separate (s : FlatSession (Recorder τ)) (batch : Batch) : Prop where
  normal : s.mode = .normal → s.queue = [] ∧ s.outgoing = []
  transaction : s.mode = .transaction → s.outgoing = []
  pipeline : s.mode = .pipeline →
    s.queue = batch.map Prod.snd ∧ s.outgoing = batch.flatMap fun p => p.1.encode
  nothing : s.mode = .pipeline → (s.outgoing = [] ↔ s.queue = [])
  sendsFirst : s.mode = .pipeline → SendsFirst s
  closes : ∀ call, call = .execute ∨ call = .discard → (s.step call).2.mode = .normal ∧
    (s.step call).2.queue = [] ∧ (s.step call).2.outgoing = []
  conflicts : ∀ call requested, s.mode ≠ .normal → call.opens? = some requested →
    s.step call = (.error (.modeConflict s.mode requested), s)

theorem separate_flat {s : Session (Recorder τ)} {batch : Batch} (h : s.Gathers batch) :
    Separate s.flat batch where
  normal := (tidy_flat s).normal
  transaction := (tidy_flat s).transaction
  pipeline hmode := (waiting_pipeline_iff hmode).mp (h hmode)
  nothing hmode := by
    obtain ⟨hqueue, houtgoing⟩ := (waiting_pipeline_iff hmode).mp (h hmode)
    show s.phase.outgoing = [] ↔ s.phase.queue = []
    rw [hqueue, houtgoing, Command.flatMap_encode_eq_nil_iff, List.map_eq_nil_iff]
  sendsFirst := FlatSession.sendsFirst
  closes call hcall := by
    have hclosed := (Session.turn_of_step s call).closes hcall
    rw [step_flat]
    simp [Session.flat, Session.mode, hclosed, Phase.mode, Phase.queue, Phase.outgoing]
  conflicts call requested batching opens := by
    obtain ⟨houtcome, hs⟩ := (Session.turn_of_step s call).conflicts batching opens
    rw [step_flat, houtcome, hs]
    rfl

/-- **One batch never leaks into the next.** After any calls from the start, over any transport: nothing is
queued or held back outside a batch, and nothing is held back in a transaction; a pipeline holds the
shapes and the encodings of exactly the commands that it has taken in since it was opened, and its
execution waits for no reply to a command that was not sent; a batch that is executed or dropped is
over, whatever the call returns; and a batch that is opened inside another is refused without a trace. -/
theorem batches_separate (transport : τ) (limits : Limits) (calls : List Call) :
    Separate ((fresh transport limits).run calls).2
      (Batch.follow [] calls ((fresh transport limits).run calls).1) := by
  have hstart : Session.Gathers (Session.fresh transport limits) [] := fun hmode => by cases hmode
  have hrun := Session.run_follows calls (fun call _ s batch h => h.step call) hstart
  rw [run_fresh]
  exact separate_flat hrun

end FlatSession

end StoreClient
