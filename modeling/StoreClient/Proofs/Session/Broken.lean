import StoreClient.Proofs.Session.Turn
import StoreClient.Transport.Scripted

/-!
# `StoreClient/Proofs/Session/Broken.lean` — the broken bit is exact and final

A session is broken from the first fatal error on, and for no other reason, and what is broken stays
broken: the stream is not touched again, and every later call has an outcome that depends on the mode
alone (`whenBroken`).

The first half is read off the turns (`Turn.isBroken_iff`). The second needs one fact about whole runs. A
pipeline looks at the bit when a command is submitted to it, and not when it is executed; so a pipeline
that held commands on a broken connection would answer its execution with an error instead of the empty
list. **No such pipeline can come about** (`Settled`): commands are held on usable connections only, and no
call that touches the connection leaves a pipeline open.
-/

set_option autoImplicit false

namespace StoreClient

open Connection

/-! ## What a reply says is no reason to give the connection up -/

/-- An error that says what is wrong with a complete reply. -/
def Error.OfReply (e : Error) : Prop :=
  (∃ reply, e = .unexpectedReply reply) ∨ ∃ reason, e = .aborted reason

theorem Error.OfReply.not_fatal {e : Error} (h : e.OfReply) : e.isFatal = false := by
  rcases h with ⟨reply, rfl⟩ | ⟨reason, rfl⟩ <;> rfl

namespace Phase

theorem opening_ofReply {reply : Frame} {e : Error} (h : (opening reply).1 = .error e) :
    e.OfReply := by
  unfold opening at h
  split at h
  · cases h
  · cases h
    exact .inl ⟨_, rfl⟩

theorem acknowledging_ofReply {queue : List Shape} {shape : Shape} {reply : Frame} {e : Error}
    (h : (acknowledging queue shape reply).1 = .error e) : e.OfReply := by
  unfold acknowledging at h
  split at h
  · cases h
  · cases h
  · cases h
    exact .inl ⟨_, rfl⟩

theorem committing_ofReply {queue : List Shape} {reply : Frame} {e : Error}
    (h : committing queue reply = .error e) : e.OfReply := by
  cases reply with
  | array replies =>
    simp only [committing] at h
    split at h
    · cases h
    · cases h
      exact .inl ⟨_, rfl⟩
  | nullArray =>
    cases h
    exact .inr ⟨_, rfl⟩
  | error line =>
    cases h
    exact .inr ⟨_, rfl⟩
  | _ =>
    cases h
    exact .inl ⟨_, rfl⟩

theorem dropping_ofReply {reply : Frame} {e : Error} (h : dropping reply = .error e) :
    e.OfReply := by
  unfold dropping at h
  split at h
  · cases h
  · cases h
    exact .inl ⟨_, rfl⟩

theorem conclude_ofReply {phase : Phase} {call : Call} {command : Command} {reply : Frame}
    {e : Error} (sends : call.command? phase.mode = some command)
    (h : (phase.conclude call reply).1 = .error e) : e.OfReply := by
  cases phase with
  | normal =>
    cases call with
    | beginTransaction => exact opening_ofReply h
    | submit command shape => cases h
    | _ => cases sends
  | transaction queue =>
    cases call with
    | submit command shape => exact acknowledging_ofReply h
    | execute =>
      have hmap : (committing queue reply).map Answer.values = .error e := h
      cases hcommit : committing queue reply with
      | ok values =>
        rw [hcommit] at hmap
        cases hmap
      | error e' =>
        rw [hcommit] at hmap
        cases hmap
        exact committing_ofReply hcommit
    | discard => exact dropping_ofReply h
    | _ => cases sends
  | pipeline queue outgoing =>
    have hnone := call.command?_pipeline.symm.trans sends
    cases hnone

end Phase

namespace Session

variable {τ : Type} [Transport τ] {s s' : Session τ} {call : Call} {outcome : Except Error Answer}

/-! ## Why a call fails -/

/-- A call on a session fails because a batch is open, because the stream is out of step, or because of what a
complete reply says. -/
theorem Turn.kind_of_error {e : Error} (h : Turn s call (.error e) s') :
    (∃ active requested, e = .modeConflict active requested) ∨ e.isFatal = true ∨ e.OfReply := by
  generalize hout : (Except.error e : Except Error Answer) = outcome at h
  cases h with
  | conflict batching opens =>
    cases hout
    exact .inl ⟨_, _, rfl⟩
  | refused broken =>
    cases hout
    exact .inr (.inl rfl)
  | answered sends exchanged => exact .inr (.inr (Phase.conclude_ofReply sends hout.symm))
  | unanswered sends failed | stranded failed =>
    cases hout
    exact .inr (.inl ((Connection.tracked_exchange _).error _ _ _ failed).1)
  | collapsed failed =>
    cases hout
    exact .inr (.inl ((Connection.tracked_exchangeAll _ _).error _ _ _ failed).1)
  | _ => cases hout

/-! ## The bit is exact -/

/-- A call that fails fatally breaks the session; no other call changes the bit. -/
theorem Turn.isBroken_iff (h : Turn s call outcome s') :
    s'.isBroken = true ↔ s.isBroken = true ∨ ∃ e, outcome = .error e ∧ e.isFatal = true := by
  -- A turn is of one of three kinds: it returns or fails with the bit left alone, or it fails fatally.
  have returned : ∀ {a : Answer} {s' : Session τ}, s'.isBroken = s.isBroken →
      (s'.isBroken = true ↔ s.isBroken = true ∨
        ∃ e, (Except.ok a : Except Error Answer) = .error e ∧ e.isFatal = true) := by
    intro a s' hsame
    rw [hsame]
    simp
  have soft : ∀ {e : Error} {s' : Session τ}, s'.isBroken = s.isBroken → e.isFatal = false →
      (s'.isBroken = true ↔ s.isBroken = true ∨
        ∃ e', (Except.error e : Except Error Answer) = .error e' ∧ e'.isFatal = true) := by
    intro e s' hsame he
    rw [hsame]
    simp [he]
  have fatal : ∀ {e : Error} {s' : Session τ}, s'.isBroken = true → e.isFatal = true →
      (s'.isBroken = true ↔ s.isBroken = true ∨
        ∃ e', (Except.error e : Except Error Answer) = .error e' ∧ e'.isFatal = true) := by
    intro e s' hbroken he
    simp [hbroken, he]
  cases h with
  | conflict batching opens => exact soft rfl rfl
  | opened => exact returned rfl
  | held usable => exact returned rfl
  | refused broken => exact fatal broken rfl
  | idle => exact returned rfl
  | dropped untold => exact returned rfl
  | @answered c c' phase _ command reply sends exchanged =>
    have hsame := ((tracked_exchange command).ok _ _ _ exchanged).1
    cases hout : (phase.conclude call reply).1 with
    | ok a => exact returned hsame
    | error e => exact soft hsame (Phase.conclude_ofReply sends hout).not_fatal
  | unanswered sends failed =>
    obtain ⟨hfatal, hbroken, _⟩ := (tracked_exchange _).error _ _ _ failed
    exact fatal hbroken hfatal
  | stranded failed =>
    obtain ⟨hfatal, hbroken, _⟩ := (tracked_exchange _).error _ _ _ failed
    exact fatal hbroken hfatal
  | executed exchanged => exact returned ((tracked_exchangeAll _ _).ok _ _ _ exchanged).1
  | collapsed failed =>
    obtain ⟨hfatal, hbroken, _⟩ := (tracked_exchangeAll _ _).error _ _ _ failed
    exact fatal hbroken hfatal

theorem run_isBroken_iff (s : Session τ) (calls : List Call) :
    (s.run calls).2.isBroken = true ↔
      s.isBroken = true ∨ ∃ e, Except.error e ∈ (s.run calls).1 ∧ e.isFatal = true := by
  induction calls generalizing s with
  | nil => simp [run_nil]
  | cons call calls ih =>
    have hfirst := (turn_of_step s call).isBroken_iff
    rw [run_cons, ih, hfirst]
    simp only [List.mem_cons]
    refine ⟨?_, ?_⟩
    · intro h
      rcases h with (hs | ⟨e, hout, he⟩) | ⟨e, hmem, he⟩
      · exact Or.inl hs
      · exact Or.inr ⟨e, Or.inl hout.symm, he⟩
      · exact Or.inr ⟨e, Or.inr hmem, he⟩
    · intro h
      rcases h with hs | ⟨e, hout | hmem, he⟩
      · exact Or.inl (Or.inl hs)
      · exact Or.inl (Or.inr ⟨e, hout.symm, he⟩)
      · exact Or.inr ⟨e, hmem, he⟩

theorem Turn.usable (h : Turn s call outcome s') (husable : s'.isBroken = false) :
    s.isBroken = false := by
  cases hs : s.isBroken with
  | false => rfl
  | true =>
    have hbroken := h.isBroken_iff.mpr (Or.inl hs)
    cases husable.symm.trans hbroken

theorem usable_of_run {calls : List Call} (husable : (s.run calls).2.isBroken = false) :
    s.isBroken = false := by
  cases hs : s.isBroken with
  | false => rfl
  | true =>
    have hbroken := (run_isBroken_iff s calls).mpr (Or.inl hs)
    cases husable.symm.trans hbroken

/-! ## The bit is final -/

/-- No command waits in a pipeline, because there is none or because it is empty. -/
def NothingHeld : Phase → Prop
  | .pipeline queue outgoing => queue = [] ∧ outgoing = []
  | .normal | .transaction _ => True

/-- A broken session holds no commands back. -/
def Settled (s : Session τ) : Prop :=
  s.isBroken = true → NothingHeld s.phase

theorem nothingHeld_abandon {phase : Phase} {command : Command}
    (sends : call.command? phase.mode = some command) : NothingHeld (phase.abandon call) := by
  cases phase with
  | normal => cases call <;> exact trivial
  | transaction queue => cases call <;> exact trivial
  | pipeline queue outgoing =>
    have hnone := call.command?_pipeline.symm.trans sends
    cases hnone

theorem Turn.settled (h : Turn s call outcome s') (hs : Settled s) : Settled s' := by
  intro hbroken
  cases h with
  | conflict batching opens => exact hs hbroken
  | opened => exact ⟨rfl, rfl⟩
  | held usable =>
    cases usable.symm.trans hbroken
  | refused broken => exact hs broken
  | idle => exact trivial
  | dropped untold => exact trivial
  | answered sends exchanged =>
    -- A reply comes over usable connections only, and leaves them usable.
    have hsame := ((tracked_exchange _).ok _ _ _ exchanged).1
    have hcontra : false = true :=
      ((not_broken_of_exchange exchanged).symm.trans hsame.symm).trans hbroken
    cases hcontra
  | unanswered sends failed => exact nothingHeld_abandon sends
  | stranded failed => exact trivial
  | executed exchanged => exact trivial
  | collapsed failed => exact trivial

/-- The outcome of a call on a broken session. -/
def whenBroken : Mode → Call → Except Error Answer
  | _, .submit _ _ => .error .broken
  | .normal, .beginTransaction => .error .broken
  | .normal, .beginPipeline => .ok .done
  | mode, .beginTransaction => .error (.modeConflict mode .transaction)
  | mode, .beginPipeline => .error (.modeConflict mode .pipeline)
  | .transaction, .execute | .transaction, .discard => .error .broken
  | _, .execute => .ok (.values [])
  | _, .discard => .ok .done

theorem whenBroken_of_command? {mode : Mode} {command : Command}
    (sends : call.command? mode = some command) : whenBroken mode call = .error .broken := by
  cases mode <;> cases call <;> first | rfl | cases sends

theorem whenBroken_of_opens? {mode requested : Mode} (batching : mode ≠ .normal)
    (opens : call.opens? = some requested) :
    whenBroken mode call = .error (.modeConflict mode requested) := by
  cases call with
  | beginTransaction =>
    cases opens
    cases mode <;> first | rfl | exact absurd rfl batching
  | beginPipeline =>
    cases opens
    cases mode <;> first | rfl | exact absurd rfl batching
  | _ => cases opens

/-- A call on a broken session leaves the connection as it is. -/
theorem Turn.when_broken (h : Turn s call outcome s') (hbroken : s.isBroken = true)
    (hs : Settled s) : outcome = whenBroken s.mode call ∧ s'.connection = s.connection := by
  cases h with
  | conflict batching opens => exact ⟨(whenBroken_of_opens? batching opens).symm, rfl⟩
  | opened => exact ⟨rfl, rfl⟩
  | held usable =>
    cases usable.symm.trans hbroken
  | refused broken => exact ⟨rfl, rfl⟩
  | idle => exact ⟨rfl, rfl⟩
  | @dropped c phase untold =>
    cases phase with
    | normal => exact ⟨rfl, rfl⟩
    | transaction queue => exact absurd rfl untold
    | pipeline queue outgoing => exact ⟨rfl, rfl⟩
  | answered sends exchanged =>
    rw [refused_exchange _ _ hbroken] at exchanged
    cases exchanged
  | unanswered sends failed =>
    rw [refused_exchange _ _ hbroken] at failed
    cases failed
    exact ⟨(whenBroken_of_command? sends).symm, rfl⟩
  | stranded failed =>
    rw [refused_exchange _ _ hbroken] at failed
    cases failed
    exact ⟨rfl, rfl⟩
  | executed exchanged =>
    -- The pipeline is empty, so its execution has nothing to do.
    obtain ⟨hqueue, houtgoing⟩ := hs hbroken
    rw [hqueue, houtgoing, exchangeAll_nothing] at exchanged
    cases exchanged
    exact ⟨rfl, rfl⟩
  | collapsed failed =>
    obtain ⟨hqueue, houtgoing⟩ := hs hbroken
    rw [hqueue, houtgoing, exchangeAll_nothing] at failed
    cases failed

theorem settled_run (hs : Settled s) (calls : List Call) : Settled (s.run calls).2 :=
  run_preserves (fun _ _ _ _ h => h.settled) hs calls

theorem run_connection_of_broken (hs : Settled s) (hbroken : s.isBroken = true)
    (calls : List Call) : (s.run calls).2.connection = s.connection := by
  induction calls generalizing s with
  | nil => rfl
  | cons call calls ih =>
    have hturn := turn_of_step s call
    obtain ⟨_, hconn⟩ := hturn.when_broken hbroken hs
    have hbroken' : (s.step call).2.isBroken = true := hturn.isBroken_iff.mpr (Or.inl hbroken)
    rw [run_cons, ih (hturn.settled hs) hbroken', hconn]

/-- Whatever is called from here on, the session stays broken, the transport sees no read, write or
flush, and the outcome of each call is the one that its mode has for a broken session. -/
structure BrokenForGood (s : Session (Recorder τ)) : Prop where
  broken : ∀ calls, (s.run calls).2.isBroken = true
  silent : ∀ calls,
    (s.run calls).2.connection.stream.transport.log = s.connection.stream.transport.log
  outcome : ∀ calls call,
    ((s.run calls).2.step call).1 = whenBroken (s.run calls).2.mode call

theorem brokenForGood {s : Session (Recorder τ)} (hs : Settled s) (hbroken : s.isBroken = true) :
    BrokenForGood s := by
  have hlater : ∀ calls, (s.run calls).2.isBroken = true := by
    intro calls
    rw [isBroken, run_connection_of_broken hs hbroken calls]
    exact hbroken
  refine ⟨hlater, ?_, ?_⟩
  · intro calls
    rw [run_connection_of_broken hs hbroken calls]
  · intro calls call
    exact ((turn_of_step _ call).when_broken (hlater calls) (settled_run hs calls)).1

/-- **The broken bit is exact and final.** After any calls from the start, over any transport, the
session is broken exactly if one of them failed fatally, and if it is broken then it is so for good. -/
theorem broken_exact_and_final (transport : τ) (limits : Limits) (calls : List Call) :
    (((fresh transport limits).run calls).2.isBroken = true ↔
      ∃ e, Except.error e ∈ ((fresh transport limits).run calls).1 ∧ e.isFatal = true) ∧
    (((fresh transport limits).run calls).2.isBroken = true →
      BrokenForGood ((fresh transport limits).run calls).2) := by
  have hstart : (fresh transport limits).isBroken = false := rfl
  have hsettled : Settled (fresh transport limits) := by
    intro hbroken
    rw [hstart] at hbroken
    cases hbroken
  refine ⟨?_, brokenForGood (settled_run hsettled calls)⟩
  rw [run_isBroken_iff, hstart]
  simp

/-- A remote side that hangs up in the middle of its second reply. -/
def hangingUp : Scripted :=
  { replies := Bytes.ofAscii "+OK\r\n:1", flushFailure := .closed }

/-- A pipeline of two commands. -/
def twoInARow : List Call :=
  [.beginPipeline, .submit (.ofKeyword "PING") .status, .submit (.ofKeyword "DBSIZE") .integer, .execute]

theorem broken_exact_and_final_hangingUp :
    ((fresh hangingUp {}).run twoInARow).2.isBroken = true ∧
      BrokenForGood ((fresh hangingUp {}).run twoInARow).2 := by
  have hbroken : ((fresh hangingUp {}).run twoInARow).2.isBroken = true := by decide +kernel
  exact ⟨hbroken, (broken_exact_and_final hangingUp {} twoInARow).2 hbroken⟩

end Session

end StoreClient
