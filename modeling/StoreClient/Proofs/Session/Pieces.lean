import StoreClient.Proofs.Connection.Pieces
import StoreClient.Proofs.Session.Turn
import StoreClient.Transport.Scripted

/-!
# `StoreClient/Proofs/Session/Pieces.lean` — how a stream cuts its bytes cannot be seen

A boundary between two pieces can fall anywhere: inside a line end, inside a length, between two replies of
which the second is wanted much later. **None of it reaches a caller or the remote side**
(`pieces_invisible`): over two streams that are going to deliver the same bytes, and that accept all that is
written to them, the same calls have the same outcomes and send the same bytes with the same flushes,
whatever the pieces are on either.

The two runs are kept side by side (`Matching`). The programs of a session look at the phase, at the broken
bit and at replies, which are the same on both sides, so each program goes in lockstep with itself
(`Lockstep`); there is one lemma for each, along its steps, and a run is an induction over them.
-/

set_option autoImplicit false

namespace StoreClient

open StoreClient.Action

namespace Session

variable {τ τ' : Type}

/-- Two sessions in the same phase, over connections that differ in how bytes are cut. -/
structure Matching [Transport τ] [Transport τ'] (s : Session (Recorder τ)) (s' : Session (Recorder τ')) :
    Prop where
  connection : s.connection.Matching s'.connection
  phase : s.phase = s'.phase

section

variable [Transport τ] [Transport τ'] {α : Type}

theorem Matching.mode {s : Session (Recorder τ)} {s' : Session (Recorder τ')} (h : Matching s s') :
    s.mode = s'.mode :=
  congrArg Phase.mode h.phase

theorem Matching.isBroken {s : Session (Recorder τ)} {s' : Session (Recorder τ')} (h : Matching s s') :
    s.isBroken = s'.isBroken :=
  h.connection.broken

/-- On matching sessions the two programs end alike, and leave them matching. -/
abbrev Lockstep (τ τ' : Type) [Transport τ] [Transport τ'] (x : Action (Session (Recorder τ)) α)
    (y : Action (Session (Recorder τ')) α) : Prop :=
  Agree Matching Matching x y

/-! ## The parts of a program -/

theorem lockstep_onConnection {call : Action (Connection (Recorder τ)) α}
    {call' : Action (Connection (Recorder τ')) α}
    (h : Connection.Lockstep τ τ' call call') :
    Lockstep τ τ' (onConnection call) (onConnection call') := by
  intro s s' hs
  have hcall := h s.connection s'.connection hs.connection
  unfold onConnection Action.within
  generalize call s.connection = outcome at hcall ⊢
  generalize call' s'.connection = outcome' at hcall ⊢
  cases hcall with
  | returned hc => exact .returned ⟨hc, hs.phase⟩
  | failed hc => exact .failed ⟨hc, hs.phase⟩

theorem lockstep_enter (phase : Phase) : Lockstep τ τ' (enter phase) (enter phase) :=
  fun _ _ h => .returned ⟨h.connection, rfl⟩

theorem lockstep_fail (e : Error) : Lockstep τ τ' (throw e : Action _ α) (throw e) :=
  .throw (fun _ _ h => h) e

theorem lockstep_requireNormal (requested : Mode) :
    Lockstep τ τ' (requireNormal requested) (requireNormal requested) := by
  refine Agree.get fun s s' h => ?_
  rw [h.mode]
  by_cases hmode : s'.mode = .normal
  · simp only [hmode, ne_eq, not_true_eq_false, if_false]
    exact .pure ()
  · simp only [hmode, ne_eq, not_false_eq_true, if_true]
    exact lockstep_fail _

theorem lockstep_ask (command : Command) (shape : Shape) :
    Lockstep τ τ' (ask command shape) (ask command shape) :=
  (lockstep_onConnection (Connection.lockstep_write command.encode)).bind fun _ =>
    lockstep_onConnection (Connection.lockstep_readReply shape)

/-! ## The programs -/

theorem lockstep_beginTransaction : Lockstep τ τ' beginTransaction beginTransaction := by
  refine (lockstep_requireNormal _).bind fun _ => (lockstep_ask _ _).bind fun answer => ?_
  split
  · exact lockstep_enter _
  · exact lockstep_fail _

theorem lockstep_beginPipeline : Lockstep τ τ' beginPipeline beginPipeline :=
  (lockstep_requireNormal _).bind fun _ => lockstep_enter _

theorem lockstep_submitQueued (queue : List Shape) (command : Command) (shape : Shape) :
    Lockstep τ τ' (submitQueued queue command shape) (submitQueued queue command shape) := by
  refine (lockstep_onConnection (Connection.lockstep_write command.encode)).bind fun _ => ?_
  refine (lockstep_enter _).bind fun _ => ?_
  refine (lockstep_onConnection (Connection.lockstep_readReply .queued)).bind fun answer => ?_
  split
  · exact .pure _
  · exact (lockstep_enter _).bind fun _ => .pure _
  · exact (lockstep_enter _).bind fun _ => lockstep_fail _

theorem lockstep_submitHeld (queue : List Shape) (outgoing : Bytes) (command : Command) (shape : Shape) :
    Lockstep τ τ' (submitHeld queue outgoing command shape) (submitHeld queue outgoing command shape) := by
  refine Agree.get fun s s' h => ?_
  rw [h.isBroken]
  cases s'.isBroken with
  | true => exact lockstep_fail _
  | false => exact (lockstep_enter _).bind fun _ => .pure _

theorem lockstep_submit (command : Command) (shape : Shape) :
    Lockstep τ τ' (submit command shape) (submit command shape) := by
  refine Agree.get fun s s' h => ?_
  rw [h.phase]
  cases s'.phase with
  | normal => exact lockstep_ask command shape
  | transaction queue => exact lockstep_submitQueued queue command shape
  | pipeline queue outgoing => exact lockstep_submitHeld queue outgoing command shape

theorem lockstep_executePipeline (queue : List Shape) (outgoing : Bytes) :
    Lockstep τ τ' (executePipeline queue outgoing) (executePipeline queue outgoing) := by
  rw [executePipeline_eq, executePipeline_eq]
  exact lockstep_onConnection (Connection.lockstep_exchangeAll outgoing queue)

theorem lockstep_executeTransaction (queue : List Shape) :
    Lockstep τ τ' (executeTransaction queue) (executeTransaction queue) := by
  refine (lockstep_onConnection (Connection.lockstep_write executeCommand.encode)).bind fun _ => ?_
  refine (lockstep_onConnection Connection.lockstep_readFrame).bind fun reply => ?_
  split
  · split
    · exact .pure _
    · exact lockstep_fail _
  · exact lockstep_fail _
  · exact lockstep_fail _
  · exact lockstep_fail _

theorem lockstep_execute : Lockstep τ τ' execute execute := by
  refine Agree.get fun s s' h => ?_
  rw [h.phase]
  refine (lockstep_enter .normal).bind fun _ => ?_
  cases s'.phase with
  | normal => exact .pure []
  | transaction queue => exact lockstep_executeTransaction queue
  | pipeline queue outgoing => exact lockstep_executePipeline queue outgoing

theorem lockstep_discard : Lockstep τ τ' discard discard := by
  refine Agree.get fun s s' h => ?_
  rw [h.phase]
  refine (lockstep_enter .normal).bind fun _ => ?_
  cases s'.phase with
  | normal => exact .pure ()
  | transaction queue =>
    refine (lockstep_ask _ _).bind fun answer => ?_
    split
    · exact .pure ()
    · exact lockstep_fail _
  | pipeline queue outgoing => exact .pure ()

/-! ## Calls and runs -/

theorem lockstep_perform (call : Call) : Lockstep τ τ' (perform call) (perform call) := by
  cases call with
  | beginTransaction => exact lockstep_beginTransaction.bind fun _ => .pure _
  | beginPipeline => exact lockstep_beginPipeline.bind fun _ => .pure _
  | submit command shape => exact (lockstep_submit command shape).bind fun value => .pure _
  | execute => exact lockstep_execute.bind fun values => .pure _
  | discard => exact lockstep_discard.bind fun _ => .pure _

theorem Matching.step {s : Session (Recorder τ)} {s' : Session (Recorder τ')} (h : Matching s s')
    (call : Call) : (s.step call).1 = (s'.step call).1 ∧ Matching (s.step call).2 (s'.step call).2 := by
  have hcall := lockstep_perform call s s' h
  unfold Session.step
  generalize perform call s = outcome at hcall ⊢
  generalize perform call s' = outcome' at hcall ⊢
  cases hcall with
  | returned h' => exact ⟨rfl, h'⟩
  | failed h' => exact ⟨rfl, h'⟩

theorem Matching.run {s : Session (Recorder τ)} {s' : Session (Recorder τ')} (h : Matching s s')
    (calls : List Call) : (s.run calls).1 = (s'.run calls).1 ∧ Matching (s.run calls).2 (s'.run calls).2 := by
  induction calls generalizing s s' with
  | nil => exact ⟨rfl, h⟩
  | cons call calls ih =>
    obtain ⟨houtcome, hstep⟩ := h.step call
    obtain ⟨houtcomes, hrun⟩ := ih hstep
    simp only [run_cons]
    exact ⟨congr (congrArg List.cons houtcome) houtcomes, hrun⟩

theorem matching_fresh {t : τ} {t' : τ'} {input : Input} (h : Steady t input) (h' : Steady t' input)
    (limits : Limits) : Matching (fresh t limits) (fresh t' limits) := by
  have hcoming : Awaits (fresh t limits).connection.stream input := ⟨input.rest, rfl, h.recorded []⟩
  have hcoming' : Awaits (fresh t' limits).connection.stream input := ⟨input.rest, rfl, h'.recorded []⟩
  exact ⟨⟨⟨⟨input, hcoming, hcoming'⟩, rfl, rfl⟩, rfl, rfl⟩, rfl⟩

/-! ## Two runs of the same calls -/

/-- Two runs with the same outcomes, after which neither a caller nor the remote side can tell the sessions
apart. How many reads and writes it took is not in it. -/
structure Indistinguishable (x : List (Except Error Answer) × Session (Recorder τ))
    (y : List (Except Error Answer) × Session (Recorder τ')) : Prop where
  outcomes : x.1 = y.1
  mode : x.2.mode = y.2.mode
  pending : x.2.pending = y.2.pending
  broken : x.2.isBroken = y.2.isBroken
  sent : x.2.connection.sent = y.2.connection.sent
  flushes : x.2.connection.stream.transport.flushes = y.2.connection.stream.transport.flushes

/-- **How a stream cuts its bytes cannot be seen.** The two transports are going to deliver the same bytes,
with the same end behind them, and accept all that is written to them, each in pieces of its own. Then any
calls have the same outcomes over both, and leave sessions alike. Whatever comes after the first calls of a
run, they are a run of their own, so this holds at every call on the way. -/
theorem pieces_invisible {t : τ} {t' : τ'} {input : Input} (steady : Steady t input)
    (steady' : Steady t' input) (limits : Limits) (calls : List Call) :
    Indistinguishable ((fresh t limits).run calls) ((fresh t' limits).run calls) := by
  obtain ⟨houtcomes, hrun⟩ := (matching_fresh steady steady' limits).run calls
  exact {
    outcomes := houtcomes
    mode := hrun.mode
    pending := congrArg (List.length ∘ Phase.queue) hrun.phase
    broken := hrun.isBroken
    sent := hrun.connection.stream.sent
    flushes := hrun.connection.stream.flushes }

end

/-- The replies to a transaction of one command, and a status line that breaks off. -/
def brokenOff : Input :=
  ⟨Bytes.ofAscii "+OK\r\n+QUEUED\r\n*1\r\n$2\r\n\r\n\r\n+PO", some ⟨.connectionReset, "reset"⟩⟩

/-- A remote side that gives those replies, with bounds on the pieces. -/
def breakingOff (readChunk writeChunk : Option Nat) : Scripted :=
  { replies := brokenOff.rest, readEnd := brokenOff.failure, readChunk, writeChunk, flushFailure := .closed }

/-- A transaction of one command, and a command after it. -/
def transactionAndMore : List Call :=
  [.beginTransaction, .submit (.ofKeyword "PING") .bulk, .execute, .submit (.ofKeyword "PING") .status]

theorem pieces_invisible_breakingOff :
    Steady (breakingOff (some 1) (some 5)) brokenOff ∧ Steady (breakingOff none none) brokenOff ∧
      Indistinguishable ((fresh (breakingOff (some 1) (some 5)) {}).run transactionAndMore)
        ((fresh (breakingOff none none) {}).run transactionAndMore) := by
  have hsmall : Steady (breakingOff (some 1) (some 5)) brokenOff :=
    Scripted.steady ⟨by decide, by decide, rfl, rfl⟩
  have hwhole : Steady (breakingOff none none) brokenOff :=
    Scripted.steady ⟨by decide, by decide, rfl, rfl⟩
  exact ⟨hsmall, hwhole, pieces_invisible hsmall hwhole {} transactionAndMore⟩

end Session

end StoreClient
