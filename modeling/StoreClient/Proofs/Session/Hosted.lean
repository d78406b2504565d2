import StoreClient.Proofs.Connection.Hosted
import StoreClient.Proofs.Session.Batch
import StoreClient.Proofs.Session.Transaction

/-!
# `StoreClient/Proofs/Session/Hosted.lean` — both sides mean the same transaction

Whether a transaction is open, and what is in it, is for the remote side to say. A session has only the
answers to go by, and its mode and its queue are what it makes of them. This file compares the two after
every call: **the session is in a transaction just when the remote side is, and the commands in it are the
same, in the same order** (`Abreast`, `SharesTransaction`). So the execution of a transaction has a reply for
each shape, or the remote side gave the transaction up and says so; no reply is ever left over.

A pipeline is no exception to the first half, but it is one to the second. Its commands wait with the
session, and the remote side does not know of them; that is why the number of pending commands is not always
the length of the remote side's queue (`pending_ahead_of_remote`).
-/

set_option autoImplicit false

namespace StoreClient

open Connection

namespace Session

variable {τ : Type} [Transport τ] {host : Host τ} {dialect : Dialect}

def ofTransport (transport : τ) (limits : Limits) : Session τ :=
  { connection := .ofTransport transport limits }

/-- What is open on the remote side, by the phase of the session and its batch. -/
def Matches (dialect : Dialect) : Phase → Batch → Option (List Command) → Prop
  | .normal, _, queue => queue = none
  | .transaction shapes, batch, queue =>
    queue = some (batch.map Prod.fst) ∧ shapes = batch.map Prod.snd
  | .pipeline shapes outgoing, batch, queue =>
    queue = none ∧ Waiting (.pipeline shapes outgoing) batch ∧
      ∀ p ∈ batch, dialect.verb p.1 ≠ .begins

/-- The session is usable, nothing is under way, and both sides match. -/
def Agrees (host : Host τ) (s : Session τ) (batch : Batch) : Prop :=
  ∃ queue answered, Matches host.dialect s.phase batch queue ∧
    Hosted host ⟨[], queue, [], answered⟩ s.connection

/-- Both sides make the same of an answer. -/
theorem Matches.conclude {phase : Phase} {batch : Batch} {queue queue' : Option (List Command)}
    {call : Call} {command : Command} {reply : Frame} (h : Matches dialect phase batch queue)
    (sends : call.command? phase.mode = some command)
    (answers : Remote.Answers dialect queue command reply queue')
    (user : ∀ command shape, call = .submit command shape → dialect.verb command = .other) :
    Matches dialect (phase.conclude call reply).2 (batch.after call (phase.conclude call reply).1)
      queue' := by
  cases phase with
  | normal =>
    have hqueue : queue = none := h
    subst hqueue
    cases call with
    | beginTransaction =>
      cases sends
      cases answers with
      | opened verb => exact ⟨rfl, rfl⟩
      | refused verb => rfl
      | plain verb => exact absurd dialect.begins verb
    | submit command shape =>
      cases sends
      exact answers.none_of_plain (by simp [user _ _ rfl])
    | _ => cases sends
  | transaction shapes =>
    obtain ⟨rfl, rfl⟩ := h
    cases call with
    | submit command shape =>
      cases sends
      have hverb := user _ _ rfl
      -- A command of the user is kept or rejected, and the session is told which.
      cases answers with
      | queued more still =>
        show Matches dialect (Phase.acknowledging _ shape _).2
          (batch.after _ (Phase.acknowledging _ shape _).1) _
        rw [Phase.acknowledging_kept]
        simp [Matches, Batch.after]
      | rejected more still => exact ⟨rfl, rfl⟩
      | executed verb | aborted verb | failed verb | dropped verb => cases hverb.symm.trans verb
    | execute =>
      cases sends
      exact answers.none_of_closing (.inl dialect.executes)
    | discard =>
      cases sends
      exact answers.none_of_closing (.inr dialect.discards)
    | _ => cases sends
  | pipeline shapes outgoing => cases call.command?_pipeline.symm.trans sends

theorem Agrees.turn {s s' : Session τ} {batch : Batch} {call : Call} {outcome : Except Error Answer}
    (h : Agrees host s batch) (hturn : Turn s call outcome s')
    (user : ∀ command shape, call = .submit command shape → host.dialect.verb command = .other) :
    Agrees host s' (batch.after call outcome) := by
  obtain ⟨queue, answered, hmatches, hhosted⟩ := h
  -- Without the wire the remote side stays as it is; over it, every exchange succeeds.
  cases hturn with
  | conflict batching opens =>
    rw [Batch.after_error]
    exact ⟨queue, answered, hmatches, hhosted⟩
  | opened => exact ⟨queue, answered, ⟨hmatches, ⟨rfl, rfl⟩, List.forall_mem_nil _⟩, hhosted⟩
  | @held c shapes outgoing command shape usable =>
    obtain ⟨hqueue, hwaiting, hplain⟩ := hmatches
    refine ⟨queue, answered, ⟨hqueue, hwaiting.held command shape, ?_⟩, hhosted⟩
    rw [Batch.after, List.forall_mem_append]
    exact ⟨hplain, by simp [user command shape rfl]⟩
  | refused broken => cases hhosted.usable.symm.trans broken
  | idle => exact ⟨queue, answered, hmatches, hhosted⟩
  | @dropped c phase untold =>
    cases phase with
    | normal => exact ⟨queue, answered, hmatches, hhosted⟩
    | transaction shapes => exact absurd rfl untold
    | pipeline shapes outgoing => exact ⟨queue, answered, hmatches.1, hhosted⟩
  | @answered c c' phase _ command reply sends exchanged =>
    obtain ⟨reply', queue', u, hexchange, hanswers, hu⟩ := hhosted.exchange command
    cases exchanged.symm.trans hexchange
    exact ⟨queue', _, hmatches.conclude sends hanswers user, hu⟩
  | @unanswered c c' phase _ command e sends failed =>
    obtain ⟨reply, queue', u, hexchange, _⟩ := hhosted.exchange command
    cases failed.symm.trans hexchange
  | @stranded c c' shapes command shape e failed =>
    obtain ⟨reply, queue', u, hexchange, _⟩ := hhosted.exchange command
    cases failed.symm.trans hexchange
  | @executed c c' shapes outgoing values exchanged =>
    obtain ⟨rfl, ⟨rfl, rfl⟩, hplain⟩ := hmatches
    obtain ⟨replies, u, _, hexchange, hu⟩ := hhosted.exchangeAll hplain
    cases exchanged.symm.trans hexchange
    exact ⟨none, _, rfl, hu⟩
  | @collapsed c c' shapes outgoing e failed =>
    obtain ⟨rfl, ⟨rfl, rfl⟩, hplain⟩ := hmatches
    obtain ⟨replies, u, _, hexchange, _⟩ := hhosted.exchangeAll hplain
    cases failed.symm.trans hexchange

/-! ## After every call -/

def side (host : Host τ) (s : Session τ) : Remote :=
  host.remote s.connection.stream.transport

/-- What the execution of a transaction comes to, by the answer of the remote side: there is a reply to each
command, or there are none at all. -/
inductive Fulfilled (batch : Batch) : Frame → Except Error Answer → Prop where
  | values {replies : List Frame} (each : replies.length = batch.length) :
      Fulfilled batch (.array replies)
        (.ok (.values (List.zipWith Shape.decode (batch.map Prod.snd) replies)))
  | aborted : Fulfilled batch .nullArray (.error (.aborted .nullReply))
  | refused {line : Bytes} : Fulfilled batch (.error line) (.error (.aborted (.refused line)))

/-- The transaction of the session is that of the remote side. -/
structure SharesTransaction (host : Host τ) (s : Session τ) (batch : Batch) : Prop where
  commands : (side host s).queue = some (batch.map Prod.fst)
  shapes : s.phase.queue = batch.map Prod.snd
  execute : ∃ reply,
    (side host (s.step .execute).2).answered = (executeCommand, reply) :: (side host s).answered ∧
      Fulfilled batch reply (s.step .execute).1
  closed : (s.step .execute).2.mode = .normal ∧ (side host (s.step .execute).2).queue = none
  discard : (s.step .discard).1 = .ok .done

/-- The commands of a pipeline are going to be answered in order, and their values are the answers. -/
structure AwaitsPipeline (host : Host τ) (s : Session τ) (batch : Batch) : Prop where
  shapes : s.phase.queue = batch.map Prod.snd
  execute : ∃ replies, replies.length = batch.length ∧
    (side host (s.step .execute).2).answered =
      record (batch.map Prod.fst) replies (side host s).answered ∧
    (s.step .execute).1 = .ok (.values (List.zipWith Shape.decode (batch.map Prod.snd) replies))

structure Abreast (host : Host τ) (s : Session τ) (batch : Batch) : Prop where
  usable : s.isBroken = false
  quiet : (side host s).inbox = [] ∧ (side host s).outbox = [] ∧ s.connection.stream.buffer = []
  transaction : s.mode = .transaction ↔ (side host s).queue.isSome = true
  pending : s.mode ≠ .pipeline → s.pending = ((side host s).queue.getD []).length
  inTransaction : s.mode = .transaction → SharesTransaction host s batch
  inPipeline : s.mode = .pipeline → AwaitsPipeline host s batch

/-- What was answered to an execution is what it comes to. -/
theorem fulfilled {batch : Batch} {reply : Frame} {queue' : Option (List Command)}
    (answers : Remote.Answers dialect (some (batch.map Prod.fst)) executeCommand reply queue') :
    Fulfilled batch reply ((Phase.committing (batch.map Prod.snd) reply).map .values) := by
  cases answers with
  | executed verb each =>
    have hlen := each.trans (List.length_map _)
    rw [(Phase.committed _ _).values _ rfl (by simpa using hlen)]
    exact .values hlen
  | aborted verb => exact .aborted
  | failed verb => exact .refused
  | dropped verb => cases dialect.executes.symm.trans verb
  | queued more still | rejected more still => exact absurd dialect.executes more

/-- A transaction is dropped by consent. -/
theorem dropping_answer {queue : List Command} {reply : Frame} {queue' : Option (List Command)}
    (answers : Remote.Answers dialect (some queue) discardCommand reply queue') :
    Phase.dropping reply = .ok .done := by
  cases answers with
  | dropped verb => rfl
  | executed verb | aborted verb | failed verb => cases dialect.discards.symm.trans verb
  | queued more still | rejected more still => exact absurd dialect.discards still

theorem Agrees.inTransaction {c : Connection τ} {shapes : List Shape} {batch : Batch}
    (h : Agrees host ⟨c, .transaction shapes⟩ batch) :
    SharesTransaction host ⟨c, .transaction shapes⟩ batch := by
  obtain ⟨_, answered, ⟨rfl, rfl⟩, hhosted⟩ := h
  have hside : side host ⟨c, .transaction (batch.map Prod.snd)⟩ = _ := hhosted.quiet.1
  obtain ⟨reply, queue', c', hexecute, hanswers, h'⟩ := hhosted.exchange executeCommand
  obtain ⟨_, _, d', hdiscard, hdropped, _⟩ := hhosted.exchange discardCommand
  exact {
    commands := by rw [hside]
    shapes := rfl
    execute := by
      refine ⟨reply, ?_, ?_⟩
      · rw [step_execute_transaction hexecute, hside]
        exact congrArg Remote.answered h'.quiet.1
      · rw [step_execute_transaction hexecute]
        exact fulfilled hanswers
    closed := by
      rw [step_execute_transaction hexecute]
      have hnone : queue' = none := hanswers.none_of_closing (.inl host.dialect.executes)
      exact ⟨rfl, (congrArg Remote.queue h'.quiet.1).trans hnone⟩
    discard := by
      rw [step_discard_transaction hdiscard]
      exact dropping_answer hdropped }

theorem Agrees.inPipeline {c : Connection τ} {shapes : List Shape} {outgoing : Bytes} {batch : Batch}
    (h : Agrees host ⟨c, .pipeline shapes outgoing⟩ batch) :
    AwaitsPipeline host ⟨c, .pipeline shapes outgoing⟩ batch := by
  obtain ⟨_, answered, ⟨rfl, ⟨rfl, rfl⟩, hplain⟩, hhosted⟩ := h
  have hside : host.remote c.stream.transport = _ := hhosted.quiet.1
  obtain ⟨replies, c', hlen, hexchange, h'⟩ := hhosted.exchangeAll hplain
  refine ⟨rfl, replies, hlen, ?_⟩
  have hturn := turn_of_step (⟨c, .pipeline (batch.map Prod.snd) (batch.flatMap fun p => p.1.encode)⟩ :
    Session τ) .execute
  rcases hturn.execute_pipeline with ⟨values, hx, houtcome⟩ | ⟨e, hx, _⟩
  · obtain ⟨rfl, hc'⟩ := EStateM.Result.ok.inj (hexchange.symm.trans hx)
    refine ⟨?_, houtcome⟩
    rw [side, side, ← hc', h'.quiet.1, hside]
  · cases hexchange.symm.trans hx

theorem Agrees.abreast {s : Session τ} {batch : Batch} (h : Agrees host s batch) :
    Abreast host s batch := by
  have hagrees := h
  obtain ⟨queue, answered, hmatches, hhosted⟩ := h
  obtain ⟨hremote, hbuffer⟩ := hhosted.quiet
  have hside : side host s = ⟨[], queue, [], answered⟩ := hremote
  have hquiet : (side host s).inbox = [] ∧ (side host s).outbox = [] ∧
      s.connection.stream.buffer = [] :=
    ⟨congrArg Remote.inbox hside, congrArg Remote.outbox hside, hbuffer⟩
  obtain ⟨c, phase⟩ := s
  cases phase with
  | normal =>
    have hqueue : queue = none := hmatches
    subst hqueue
    refine ⟨hhosted.usable, hquiet, ?_, ?_, ?_, ?_⟩
    · simp [hside, mode, Phase.mode]
    · intro _
      rw [hside]
      rfl
    · intro hmode
      cases hmode
    · intro hmode
      cases hmode
  | transaction shapes =>
    have hshares := hagrees.inTransaction
    refine ⟨hhosted.usable, hquiet, ?_, ?_, fun _ => hshares, ?_⟩
    · simp [hshares.commands, mode, Phase.mode]
    · intro _
      rw [hshares.commands, pending, hshares.shapes]
      simp
    · intro hmode
      cases hmode
  | pipeline shapes outgoing =>
    have hqueue : queue = none := hmatches.1
    subst hqueue
    refine ⟨hhosted.usable, hquiet, ?_, ?_, ?_, fun _ => hagrees.inPipeline⟩
    · simp [hside, mode, Phase.mode]
    · intro hmode
      exact absurd rfl hmode
    · intro hmode
      cases hmode

/-- **Both sides mean the same transaction.** A session on a new connection leads to a remote side with no
transaction open and nothing under way, and none of the commands that are submitted is one that the
remote side takes for a transaction command. After any calls, the session is in a transaction just
when the remote side is; the commands in it and their shapes are those that the session was told it keeps, in
the order of submission; and its execution has a reply for each of them, or the remote side gave it up. -/
theorem sides_agree {transport : τ} {calls : List Call} {answered : List (Command × Frame)}
    (idle : host.remote transport = ⟨[], none, [], answered⟩)
    (users : ∀ command shape, Call.submit command shape ∈ calls → host.dialect.verb command = .other) :
    Abreast host ((ofTransport transport host.limits).run calls).2
      (Batch.follow [] calls ((ofTransport transport host.limits).run calls).1) := by
  have hstart : Agrees host (ofTransport transport host.limits) [] := by
    refine ⟨none, answered, rfl, rfl, rfl, ?_⟩
    show host.Works _ ((host.remote transport).behind [])
    rw [idle]
    exact .refl
  -- The commands of the calls that are left are among those of all calls.
  have hrun := run_follows calls ?_ hstart
  · exact hrun.abreast
  · intro call hcall s batch h
    refine h.turn (turn_of_step s call) ?_
    rintro command shape rfl
    exact users command shape hcall

/-- A transaction with a command that is kept and one that is rejected, then a pipeline, and another
transaction. -/
def alternating : List Call :=
  [.beginTransaction, .submit (.ofKeyword "GET") .bulk, .submit (.ofKeyword "TYPE") .keyType, .execute,
    .beginPipeline, .submit (.ofKeyword "PING") .status, .execute, .beginTransaction,
    .submit (.ofKeyword "DBSIZE") .integer]

theorem sides_agree_alternating :
    Modest.host.remote {} = ⟨[], none, [], []⟩ ∧
      (∀ command shape, Call.submit command shape ∈ alternating →
        Modest.host.dialect.verb command = .other) ∧
      Abreast Modest.host ((ofTransport ({} : Modest) {}).run alternating).2
        (Batch.follow [] alternating ((ofTransport ({} : Modest) {}).run alternating).1) := by
  have husers : ∀ command shape, Call.submit command shape ∈ alternating →
      Modest.host.dialect.verb command = .other := by
    intro command shape h
    simp only [alternating, List.mem_cons, reduceCtorEq, Call.submit.injEq, List.not_mem_nil, or_false,
      false_or] at h
    rcases h with ⟨rfl, rfl⟩ | ⟨rfl, rfl⟩ | ⟨rfl, rfl⟩ | ⟨rfl, rfl⟩ <;> decide
  exact ⟨rfl, husers, sides_agree rfl husers⟩

def heldBack : List Call :=
  [.beginPipeline, .submit (.ofKeyword "PING") .status]

/-- A command that waits in a pipeline is pending, and the remote side does not have it. -/
theorem pending_ahead_of_remote :
    Modest.host.remote {} = ⟨[], none, [], []⟩ ∧
      (∀ command shape, Call.submit command shape ∈ heldBack →
        Modest.host.dialect.verb command = .other) ∧
      ¬ ((ofTransport ({} : Modest) {}).run heldBack).2.pending =
        ((side Modest.host ((ofTransport ({} : Modest) {}).run heldBack).2).queue.getD []).length := by
  refine ⟨rfl, ?_, ?_⟩
  · intro command shape h
    simp only [heldBack, List.mem_cons, reduceCtorEq, Call.submit.injEq, List.not_mem_nil, or_false,
      false_or] at h
    obtain ⟨rfl, rfl⟩ := h
    decide
  · decide

end Session

end StoreClient
