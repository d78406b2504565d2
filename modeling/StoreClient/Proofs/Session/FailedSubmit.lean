import StoreClient.Proofs.Session.Batch
import StoreClient.Transport.Scripted

/-!
# `StoreClient/Proofs/Session/FailedSubmit.lean` — what a submission that failed leaves behind

A submission that fails should leave the batch as it was; the number of pending commands would then be the
number of those that were taken in. In a pipeline that is so, and in a transaction it is so with **one
exception**. There the shape of a command joins the queue when the command is out, before its
acknowledgement is read. An acknowledgement that refuses the command, or is none, takes the shape out again;
one that cannot be read at all does not (`Unheard`).

So a failed submission changes nothing but the queue, and that only then (`FailedSubmit`); and pending
commands are counted right until then (`pending_counts_unless_stranded`). It happens once at most, because
it breaks the session, and it is over when the transaction is, because no other can be opened.
-/

set_option autoImplicit false

namespace StoreClient

open StoreClient.Action

namespace Connection

/-- The command goes out, and the reply to it cannot be read. -/
def Unheard {τ : Type} [Transport τ] (command : Command) (c : Connection τ) : Prop :=
  ∃ u e c', send command c = .ok () u ∧ readFrame u = .error e c'

variable {τ : Type} [Transport τ] {command : Command} {c c' : Connection τ}

theorem not_unheard_of_exchange {reply : Frame} (h : exchange command c = .ok reply c') :
    ¬ c.Unheard command := by
  rintro ⟨u, e, d, hsend, hunread⟩
  cases ((bind_of_ok hsend).trans hunread).symm.trans h

theorem not_unheard_of_send {e : Error} (h : send command c = .error e c') : ¬ c.Unheard command := by
  rintro ⟨u, e', d, hsend, _⟩
  cases hsend.symm.trans h

theorem Unheard.usable (h : c.Unheard command) : c.broken = false := by
  obtain ⟨u, e, d, hsend, _⟩ := h
  exact (guarded_eq_ok.mp hsend).1

end Connection

namespace Session

open Connection

variable {τ : Type} [Transport τ]

/-! ## A submission inside a transaction -/

/-- The ways in which a command that is submitted inside a transaction can fare: it is answered, it does not
go out, or it goes out and is not heard of again. -/
inductive Queueing (c : Connection τ) (queue : List Shape) (command : Command) (shape : Shape) :
    Except Error Answer → Session τ → Prop where
  | answered {c' : Connection τ} {reply : Frame} (exchanged : exchange command c = .ok reply c') :
      Queueing c queue command shape (Phase.acknowledging queue shape reply).1
        ⟨c', (Phase.acknowledging queue shape reply).2⟩
  | unsent {c' : Connection τ} {e : Error} (failed : send command c = .error e c') :
      Queueing c queue command shape (.error e) ⟨c', .transaction queue⟩
  | unheard {c' : Connection τ} {e : Error} (unheard : c.Unheard command) (broken : c'.broken = true) :
      Queueing c queue command shape (.error e) ⟨c', .transaction (queue ++ [shape])⟩

theorem queueing_of_step (c : Connection τ) (queue : List Shape) (command : Command) (shape : Shape) :
    Queueing c queue command shape (step (⟨c, .transaction queue⟩ : Session τ) (.submit command shape)).1
      (step (⟨c, .transaction queue⟩ : Session τ) (.submit command shape)).2 := by
  cases hsend : send command c with
  | error e c' =>
    rw [step_submit_unsent hsend]
    exact .unsent hsend
  | ok _ u =>
    cases hread : readFrame u with
    | ok reply c' =>
      rw [step_submit_transaction hsend hread]
      exact .answered ((bind_of_ok hsend).trans hread)
    | error e c' =>
      have hbroken := (tracked_readFrame.error _ _ _ hread).2.1
      rw [step_submit_unheard hsend hread]
      exact .unheard ⟨u, e, c', hsend, hread⟩ hbroken

/-- A call submits a command inside a transaction that goes out and is not heard of again. -/
def Strands (s : Session τ) (call : Call) : Prop :=
  ∃ command shape, call = .submit command shape ∧ s.mode = .transaction ∧ s.connection.Unheard command

/-- One of several calls does so. -/
def StrandsIn (s : Session τ) : List Call → Prop
  | [] => False
  | call :: calls => s.Strands call ∨ StrandsIn (s.step call).2 calls

theorem strands_transaction (c : Connection τ) (queue : List Shape) (command : Command) (shape : Shape) :
    Strands (⟨c, .transaction queue⟩ : Session τ) (.submit command shape) ↔ c.Unheard command := by
  simp [Strands, mode, Phase.mode]

/-! ## One submission that fails -/

/-- A submission failed. The mode and what is held back are as before, and so is the queue, unless the command
went out inside a transaction and was not heard of again; then its shape stays in the queue, and the session
is broken. -/
structure FailedSubmit (s : Session τ) (command : Command) (shape : Shape) (after : Session τ) : Prop where
  mode : after.mode = s.mode
  outgoing : after.phase.outgoing = s.phase.outgoing
  queue : after.phase.queue = s.phase.queue ↔ ¬ s.Strands (.submit command shape)
  stranded : s.Strands (.submit command shape) →
    after.phase.queue = s.phase.queue ++ [shape] ∧ after.isBroken = true

theorem FailedSubmit.of_phase {s after : Session τ} {command : Command} {shape : Shape}
    (same : after.phase = s.phase) (hnot : ¬ s.Strands (.submit command shape)) :
    FailedSubmit s command shape after where
  mode := congrArg Phase.mode same
  outgoing := congrArg Phase.outgoing same
  queue := iff_of_true (congrArg Phase.queue same) hnot
  stranded hs := absurd hs hnot

theorem Queueing.failed {c : Connection τ} {queue : List Shape} {command : Command} {shape : Shape}
    {e : Error} {s' : Session τ} (h : Queueing c queue command shape (.error e) s') :
    FailedSubmit ⟨c, .transaction queue⟩ command shape s' := by
  have hiff := strands_transaction c queue command shape
  generalize hout : (Except.error e : Except Error Answer) = outcome at h
  cases h with
  | answered exchanged =>
    -- An answer that fails the call has taken the shape out again.
    refine .of_phase ?_ (mt hiff.mp (not_unheard_of_exchange exchanged))
    unfold Phase.acknowledging at hout ⊢
    split at hout
    · cases hout
    · cases hout
    · rfl
  | unsent failed => exact .of_phase rfl (mt hiff.mp (not_unheard_of_send failed))
  | unheard unheard broken =>
    have hstrands := hiff.mpr unheard
    have hlonger : queue ++ [shape] ≠ queue := by simp
    exact ⟨rfl, rfl, iff_of_false hlonger (not_not_intro hstrands), fun _ => ⟨rfl, broken⟩⟩

theorem Turn.failed_submit {s s' : Session τ} {command : Command} {shape : Shape} {e : Error}
    (h : Turn s (.submit command shape) (.error e) s') (hmode : s.mode ≠ .transaction) :
    s'.phase = s.phase := by
  generalize hout : (Except.error e : Except Error Answer) = outcome at h
  cases h with
  | conflict batching opens => rfl
  | held usable => cases hout
  | refused broken => rfl
  | @answered c c' phase _ command' reply sends exchanged =>
    cases phase with
    | normal => cases hout
    | transaction queue => exact absurd rfl hmode
    | pipeline queue outgoing => cases sends
  | unanswered sends failed => rfl
  | stranded failed => exact absurd rfl hmode

theorem failedSubmit {s : Session τ} {command : Command} {shape : Shape} {e : Error}
    (h : (s.step (.submit command shape)).1 = .error e) :
    FailedSubmit s command shape (s.step (.submit command shape)).2 := by
  by_cases hmode : s.mode = .transaction
  · obtain ⟨c, phase⟩ := s
    cases phase with
    | transaction queue => exact (h ▸ queueing_of_step c queue command shape).failed
    | _ => cases hmode
  · refine .of_phase ((h ▸ turn_of_step s (.submit command shape)).failed_submit hmode) ?_
    rintro ⟨_, _, _, htransaction, _⟩
    exact hmode htransaction

/-! ## What a transaction has taken in -/

/-- In a transaction, the queue has the shapes of the batch, and more behind them just if a command was
stranded. -/
structure Counts (s : Session τ) (batch : Batch) (stranded : Prop) : Prop where
  queue : ∀ queue, s.phase = .transaction queue →
    ∃ left, queue = batch.map Prod.snd ++ left ∧ (left = [] ↔ ¬ stranded)
  broken : stranded → s.isBroken = true

variable {s s' : Session τ} {batch : Batch} {stranded : Prop}

omit [Transport τ] in
theorem Counts.not_stranded_of_usable (h : Counts s batch stranded) (usable : s.connection.broken = false) :
    ¬ stranded := by
  intro hs
  cases usable.symm.trans (h.broken hs)

theorem Counts.not_stranded_of_exchange {command : Command} {reply : Frame} {c' : Connection τ}
    (h : Counts s batch stranded) (exchanged : exchange command s.connection = .ok reply c') :
    ¬ stranded :=
  h.not_stranded_of_usable (not_broken_of_exchange exchanged)

/-- What an answer adds to the batch, it adds to the queue. -/
theorem after_acknowledging (batch : Batch) (queue : List Shape) (command : Command) (shape : Shape)
    (reply : Frame) :
    ∃ taken, batch.after (.submit command shape) (Phase.acknowledging queue shape reply).1 = batch ++ taken ∧
      (Phase.acknowledging queue shape reply).2 = .transaction (queue ++ taken.map Prod.snd) := by
  unfold Phase.acknowledging
  split
  · exact ⟨[(command, shape)], rfl, rfl⟩
  · exact ⟨[], (List.append_nil batch).symm, by simp⟩
  · exact ⟨[], (List.append_nil batch).symm, by simp⟩

theorem Counts.queueing {c : Connection τ} {queue : List Shape} {command : Command} {shape : Shape}
    {outcome : Except Error Answer} (h : Counts (⟨c, .transaction queue⟩ : Session τ) batch stranded)
    (hstep : Queueing c queue command shape outcome s') :
    Counts s' (batch.after (.submit command shape) outcome) (stranded ∨ c.Unheard command) := by
  obtain ⟨left, hqueue, hleft⟩ := h.queue queue rfl
  cases hstep with
  | @answered c' reply exchanged =>
    -- The connection was usable, so nothing had been stranded.
    have hnot : ¬ stranded := h.not_stranded_of_exchange exchanged
    have hnone : ¬ (stranded ∨ c.Unheard command) := not_or_intro hnot (not_unheard_of_exchange exchanged)
    refine ⟨?_, fun hs => absurd hs hnone⟩
    intro queue' hphase
    refine ⟨[], ?_, iff_of_true rfl hnone⟩
    rw [hleft.mpr hnot, List.append_nil] at hqueue
    obtain ⟨taken, hafter, htaken⟩ := after_acknowledging batch queue command shape reply
    cases htaken.symm.trans hphase
    rw [hafter, hqueue, List.map_append, List.append_nil]
  | unsent failed =>
    have hsame : (stranded ∨ c.Unheard command) ↔ stranded := or_iff_left (not_unheard_of_send failed)
    rw [hsame, Batch.after_error]
    refine ⟨?_, fun hs => ((tracked_write _).error _ _ _ failed).2.1⟩
    intro queue' hphase
    cases hphase
    exact ⟨left, hqueue, hleft⟩
  | unheard unheard broken =>
    have hnot : ¬ stranded := h.not_stranded_of_usable unheard.usable
    rw [hleft.mpr hnot, List.append_nil] at hqueue
    refine ⟨?_, fun _ => broken⟩
    intro queue' hphase
    cases hphase
    refine ⟨[shape], by rw [Batch.after_error, hqueue], ?_⟩
    exact iff_of_false (by simp) (not_not_intro (.inr unheard))

/-- The other calls strand nothing, and a transaction that they leave open has just been opened, or is the one
that was open. -/
theorem Counts.turn {call : Call} {outcome : Except Error Answer} (h : Counts s batch stranded)
    (hturn : Turn s call outcome s')
    (hcall : s.mode = .transaction → ∀ command shape, call ≠ .submit command shape) :
    Counts s' (batch.after call outcome) stranded := by
  refine ⟨?_, fun hs => hturn.isBroken_iff.mpr (.inl (h.broken hs))⟩
  intro queue hphase
  cases hturn with
  | conflict batching opens =>
    rw [Batch.after_error]
    exact h.queue queue hphase
  | @answered c c' phase _ command reply sends exchanged =>
    cases phase with
    | normal =>
      cases call with
      | beginTransaction =>
        have hnot : ¬ stranded := h.not_stranded_of_exchange exchanged
        have hopened : (Phase.opening reply).2 = .transaction queue := hphase
        show ∃ left, queue = (batch.after _ (Phase.opening reply).1).map Prod.snd ++ left ∧ _
        unfold Phase.opening at hopened ⊢
        split at hopened
        · cases hopened
          exact ⟨[], rfl, iff_of_true rfl hnot⟩
        · cases hopened
      | submit command shape => cases hphase
      | _ => cases sends
    | transaction queue' =>
      cases call with
      | submit command shape => exact absurd rfl (hcall rfl command shape)
      | execute => cases hphase
      | discard => cases hphase
      | _ => cases sends
    | pipeline queue' outgoing => cases call.command?_pipeline.symm.trans sends
  | @unanswered c c' phase _ command e sends failed =>
    cases phase with
    | normal => cases call <;> cases hphase
    | transaction queue' =>
      cases call with
      | submit command shape => exact absurd rfl (hcall rfl command shape)
      | execute => cases hphase
      | discard => cases hphase
      | _ => cases sends
    | pipeline queue' outgoing => cases call.command?_pipeline.symm.trans sends
  | @stranded c c' queue' command shape e failed => exact absurd rfl (hcall rfl command shape)
  | _ => cases hphase

theorem Counts.step (h : Counts s batch stranded) (call : Call) :
    Counts (s.step call).2 (batch.after call (s.step call).1) (stranded ∨ s.Strands call) := by
  by_cases hsubmits : s.mode = .transaction ∧ ∃ command shape, call = .submit command shape
  · obtain ⟨hmode, command, shape, rfl⟩ := hsubmits
    obtain ⟨c, phase⟩ := s
    cases phase with
    | transaction queue =>
      rw [strands_transaction]
      exact h.queueing (queueing_of_step c queue command shape)
    | _ => cases hmode
  · have hnot : ¬ s.Strands call := by
      rintro ⟨command, shape, hcall, hmode, _⟩
      exact hsubmits ⟨hmode, command, shape, hcall⟩
    rw [or_iff_left hnot]
    refine h.turn (turn_of_step s call) ?_
    intro hmode command shape hcall
    exact hsubmits ⟨hmode, command, shape, hcall⟩

theorem Counts.run (h : Counts s batch stranded) (calls : List Call) :
    Counts (s.run calls).2 (batch.follow calls (s.run calls).1) (stranded ∨ s.StrandsIn calls) := by
  induction calls generalizing s batch stranded with
  | nil =>
    rw [StrandsIn, or_false]
    exact h
  | cons call calls ih =>
    rw [StrandsIn, ← or_assoc]
    exact ih (h.step call)

/-! ## The number of pending commands -/

/-- A session, with the commands that it has taken in since a batch was opened, and whether one was
stranded. -/
structure TakenIn (s : Session τ) (batch : Batch) (stranded : Prop) : Prop where
  failed : ∀ command shape e, (s.step (.submit command shape)).1 = .error e →
    FailedSubmit s command shape (s.step (.submit command shape)).2
  pipeline : s.mode = .pipeline → s.pending = batch.length
  transaction : s.mode = .transaction → (s.pending = batch.length ↔ ¬ stranded)

/-- **A submission that failed leaves the batch as it was, unless its acknowledgement could not be read.**
After any calls from the start, over any transport: a submission that fails changes no mode and nothing that
is held back, and it changes the queue exactly if the command went out inside a transaction and was not
heard of again. So the number of pending commands is the number of those that were taken in since the batch
was opened, in a pipeline always, and in a transaction just as long as no command was stranded. -/
theorem pending_counts_unless_stranded (transport : τ) (limits : Limits) (calls : List Call) :
    TakenIn ((fresh transport limits).run calls).2
      (Batch.follow [] calls ((fresh transport limits).run calls).1)
      ((fresh transport limits).StrandsIn calls) := by
  have hgathers : Gathers (fresh transport limits) [] := fun hmode => by cases hmode
  have hgathered := run_follows calls (fun call _ s batch h => h.step call) hgathers
  have hstart : Counts (fresh transport limits) [] False := by
    refine ⟨?_, False.elim⟩
    intro queue hphase
    cases hphase
  have hcounts := hstart.run calls
  rw [false_or] at hcounts
  generalize ((fresh transport limits).run calls).2 = s at hgathered hcounts ⊢
  exact {
    failed := fun command shape e => failedSubmit
    pipeline := by
      intro hmode
      rw [pending, ((waiting_pipeline_iff hmode).mp (hgathered hmode)).1, List.length_map]
    transaction := by
      intro hmode
      obtain ⟨c, phase⟩ := s
      cases phase with
      | transaction queue =>
        obtain ⟨left, hqueue, hleft⟩ := hcounts.queue queue rfl
        rw [← hleft, ← List.length_eq_zero_iff]
        simp [pending, Phase.queue, hqueue]
      | _ => cases hmode }

/-- A remote side that opens a transaction and hangs up. -/
def hungUp : Scripted :=
  { replies := Bytes.ofAscii "+OK\r\n", flushFailure := .closed }

/-- A command whose acknowledgement never comes is pending although its submission failed. -/
theorem pending_after_failed_submit :
    ((fresh hungUp {}).run [.beginTransaction]).2.pending = 0 ∧
      (((fresh hungUp {}).run [.beginTransaction]).2.step (.submit (.ofKeyword "PING") .status)).1.isOk =
        false ∧
      (((fresh hungUp {}).run [.beginTransaction]).2.step
        (.submit (.ofKeyword "PING") .status)).2.pending = 1 := by
  decide +kernel

end Session

end StoreClient
