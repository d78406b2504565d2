import StoreClient.Proofs.Connection.Steady
import StoreClient.Proofs.Session.Turn
import StoreClient.Transport.Scripted

/-!
# `StoreClient/Proofs/Session/Transaction.lean` — the replies of a transaction find their shapes

Inside a transaction each command is acknowledged, refused, or answered with something else altogether, and
only the first makes the remote side keep it. The replies come later, all in one array, and are told apart
by position alone. So the queue of the session has to hold, at every moment, **the shapes of the commands
that were acknowledged, in the order of submission, and no others** (`run_submissions`). A shape too many
or too few would give every later reply to the wrong command.

Each acknowledgement is any reply whatever. What the session makes of it is stated by cases on the frame
(`Acknowledged`), and likewise for the reply to the execution (`Committed`).
-/

set_option autoImplicit false

namespace StoreClient

open Connection

/-- A command that is submitted inside a transaction, with what it is answered with at once. -/
structure Submission where
  command : Command
  shape : Shape
  answer : Reply

namespace Submission

def call (x : Submission) : Call :=
  .submit x.command x.shape

/-- The remote side says that it keeps the command. -/
def isKept (x : Submission) : Bool :=
  match x.answer.frame with
  | .status text => text == Shape.acknowledgement
  | _ => false

/-- The shapes of the commands that the remote side keeps. -/
def kept (xs : List Submission) : List Shape :=
  (xs.filter isKept).map shape

/-- What the commands are answered with, in one piece. -/
def answers (xs : List Submission) : Bytes :=
  xs.flatMap fun x => x.answer.bytes

theorem kept_append (xs ys : List Submission) : kept (xs ++ ys) = kept xs ++ kept ys := by
  simp [kept]

end Submission

/-! ## What is made of one reply -/

/-- A command was submitted with these shapes in the queue. It joins them if it was acknowledged; it is
returned as a value if it was refused; and any other answer is an error that leaves the queue alone. -/
structure Acknowledged (queue : List Shape) (shape : Shape) (answer : Frame)
    (outcome : Except Error Answer) (phase : Phase) : Prop where
  kept : answer = .status Shape.acknowledgement →
    outcome = .ok (.value .queued) ∧ phase = .transaction (queue ++ [shape])
  refused : ∀ line, answer = .error line →
    outcome = .ok (.value (.error (some (String.ofList (Utf8.lossy line))))) ∧
      phase = .transaction queue
  unexpected : answer ≠ .status Shape.acknowledgement → (∀ line, answer ≠ .error line) →
    (∃ value, outcome = .error (.unexpectedReply (.toQueued value))) ∧ phase = .transaction queue

/-- The transaction was executed with these shapes in the queue. -/
structure Committed (queue : List Shape) (reply : Frame) (outcome : Except Error Answer) : Prop where
  values : ∀ replies, reply = .array replies → replies.length = queue.length →
    outcome = .ok (.values (List.zipWith Shape.decode queue replies))
  wrongCount : ∀ replies, reply = .array replies → replies.length ≠ queue.length →
    outcome = .error (.unexpectedReply (.wrongCount replies.length queue.length))
  aborted : reply = .nullArray → outcome = .error (.aborted .nullReply)
  refused : ∀ line, reply = .error line → outcome = .error (.aborted (.refused line))
  unexpected : (∀ replies, reply ≠ .array replies) → reply ≠ .nullArray →
    (∀ line, reply ≠ .error line) → outcome = .error (.unexpectedReply (.toExecute reply))

namespace Phase

theorem acknowledging_kept (queue : List Shape) (shape : Shape) :
    acknowledging queue shape (.status Shape.acknowledgement) =
      (.ok (.value .queued), .transaction (queue ++ [shape])) := by
  simp [acknowledging, Shape.decode, Shape.read?]

/-- Of all other answers, a null payload is absent and the rest are mismatches. Neither is an
acknowledgement or a refusal. -/
theorem acknowledging_unexpected (queue : List Shape) (shape : Shape) {answer : Frame}
    (hkept : answer ≠ .status Shape.acknowledgement) (hrefused : ∀ line, answer ≠ .error line) :
    ∃ value, acknowledging queue shape answer =
      (.error (.unexpectedReply (.toQueued value)), .transaction queue) := by
  cases answer with
  | status text =>
    have htext : text ≠ Shape.acknowledgement := fun h => hkept (h ▸ rfl)
    exact ⟨.mismatch, by simp [acknowledging, Shape.decode, Shape.read?, htext, Value.mismatch]⟩
  | error line => exact absurd rfl (hrefused line)
  | nullBulk => exact ⟨.absent, rfl⟩
  | _ => exact ⟨.mismatch, rfl⟩

theorem acknowledged (queue : List Shape) (shape : Shape) (answer : Frame) :
    Acknowledged queue shape answer (acknowledging queue shape answer).1
      (acknowledging queue shape answer).2 where
  kept := by
    rintro rfl
    rw [acknowledging_kept]
    exact ⟨rfl, rfl⟩
  refused := by
    rintro line rfl
    exact ⟨rfl, rfl⟩
  unexpected := by
    intro hkept hrefused
    obtain ⟨value, h⟩ := acknowledging_unexpected queue shape hkept hrefused
    rw [h]
    exact ⟨⟨value, rfl⟩, rfl⟩

theorem acknowledging_phase (queue : List Shape) (x : Submission) :
    (acknowledging queue x.shape x.answer.frame).2 = .transaction (queue ++ Submission.kept [x]) := by
  have hcases := acknowledged queue x.shape x.answer.frame
  by_cases hkept : x.answer.frame = .status Shape.acknowledgement
  · rw [(hcases.kept hkept).2]
    simp [Submission.kept, Submission.isKept, hkept]
  · have hnot : x.isKept = false := by
      unfold Submission.isKept
      split
      · rename_i text htext
        simpa using fun h : text = Shape.acknowledgement => hkept (h ▸ htext)
      · rfl
    have hnone : Submission.kept [x] = [] := by simp [Submission.kept, hnot]
    rw [hnone, List.append_nil]
    by_cases hrefused : ∃ line, x.answer.frame = .error line
    · obtain ⟨line, hline⟩ := hrefused
      exact (hcases.refused line hline).2
    · exact (hcases.unexpected hkept fun line h => hrefused ⟨line, h⟩).2

theorem committed (queue : List Shape) (reply : Frame) :
    Committed queue reply ((committing queue reply).map .values) where
  values := by
    rintro replies rfl hlen
    simp only [committing, if_pos hlen]
    rfl
  wrongCount := by
    rintro replies rfl hlen
    simp only [committing, if_neg hlen]
    rfl
  aborted := by
    rintro rfl
    rfl
  refused := by
    rintro line rfl
    rfl
  unexpected := by
    intro harray hnull herror
    cases reply with
    | array replies => exact absurd rfl (harray replies)
    | nullArray => exact absurd rfl hnull
    | error line => exact absurd rfl (herror line)
    | _ => rfl

end Phase

namespace Session

variable {τ : Type} [Transport τ] {limits : Limits} {failure : Option IoError}

/-! ## One command, and any number of them -/

/-- The session after some commands were submitted to it, one after the other. -/
def submitted (s : Session τ) (xs : List Submission) : Session τ :=
  (s.run (xs.map Submission.call)).2

theorem step_submission {c : Connection τ} (queue : List Shape) {x : Submission} {rest : Bytes}
    (complete : Derives limits 0 x.answer.bytes x.answer.frame)
    (h : Facing limits c ⟨x.answer.bytes ++ rest, failure⟩) :
    ∃ c', step (⟨c, .transaction queue⟩ : Session τ) x.call =
        ((Phase.acknowledging queue x.shape x.answer.frame).1,
          ⟨c', .transaction (queue ++ Submission.kept [x])⟩) ∧
      Facing limits c' ⟨rest, failure⟩ := by
  obtain ⟨c', hexchange, h'⟩ := h.exchange complete x.command
  refine ⟨c', ?_, h'⟩
  rw [← Phase.acknowledging_phase]
  exact step_answered rfl hexchange

/-- After any submissions the queue holds the shapes of those that were acknowledged, in order. -/
theorem run_submissions {c : Connection τ} (queue : List Shape) {xs : List Submission} {rest : Bytes}
    (complete : ∀ x ∈ xs, Derives limits 0 x.answer.bytes x.answer.frame)
    (h : Facing limits c ⟨Submission.answers xs ++ rest, failure⟩) :
    ∃ c', submitted (⟨c, .transaction queue⟩ : Session τ) xs =
        ⟨c', .transaction (queue ++ Submission.kept xs)⟩ ∧
      Facing limits c' ⟨rest, failure⟩ := by
  -- Each acknowledgement lengthens the queue for the commands behind it.
  induction xs generalizing c queue with
  | nil => exact ⟨c, by simp [submitted, run_nil, Submission.kept], h⟩
  | cons x xs ih =>
    have hhead : Derives limits 0 x.answer.bytes x.answer.frame := complete x List.mem_cons_self
    have htail : ∀ y ∈ xs, Derives limits 0 y.answer.bytes y.answer.frame :=
      fun y hy => complete y (List.mem_cons_of_mem x hy)
    rw [Submission.answers, List.flatMap_cons, List.append_assoc] at h
    obtain ⟨u, hstep, hu⟩ := step_submission queue hhead h
    obtain ⟨c', hrun, h'⟩ := ih (queue ++ Submission.kept [x]) htail hu
    refine ⟨c', ?_, h'⟩
    rw [submitted, List.map_cons, run_cons, hstep]
    rw [submitted, List.append_assoc, ← Submission.kept_append] at hrun
    exact hrun

/-- What a transaction did with its commands: every one of them was treated as its answer says, wherever
it stood among the others, and the execution as its reply says, over the shapes of the commands that were
acknowledged. -/
structure TransactionRun (s : Session τ) (xs : List Submission) (reply : Frame) (left : Input) : Prop where
  each : ∀ before x after, xs = before ++ x :: after →
    (s.submitted before).phase = .transaction (Submission.kept before) ∧
      Acknowledged (Submission.kept before) x.shape x.answer.frame
        ((s.submitted before).step x.call).1 ((s.submitted before).step x.call).2.phase ∧
      ((s.submitted before).step x.call).2.isBroken = false
  queue : (s.submitted xs).phase = .transaction (Submission.kept xs)
  committed : Committed (Submission.kept xs) reply ((s.submitted xs).step .execute).1
  closed : ((s.submitted xs).step .execute).2.phase = .normal
  usable : ((s.submitted xs).step .execute).2.isBroken = false
  left : Awaits ((s.submitted xs).step .execute).2.connection.stream left

/-- **The replies of a transaction find their shapes**, whatever the acknowledgements are. A session is in a
transaction with nothing queued, and its stream is going to deliver an answer to each of some
commands, then a reply to the execution, and then anything; each is a reply within the limits. -/
theorem transaction_pairs_replies {s : Session τ} {xs : List Submission} {final : Reply} {rest : Bytes}
    (opened : s.phase = .transaction []) (usable : s.isBroken = false)
    (answered : ∀ x ∈ xs, Derives s.connection.limits 0 x.answer.bytes x.answer.frame)
    (complete : Derives s.connection.limits 0 final.bytes final.frame)
    (awaits : Awaits s.connection.stream ⟨Submission.answers xs ++ (final.bytes ++ rest), failure⟩) :
    TransactionRun s xs final.frame ⟨rest, failure⟩ := by
  obtain ⟨c, phase⟩ := s
  subst opened
  have hfacing : Facing c.limits c ⟨Submission.answers xs ++ (final.bytes ++ rest), failure⟩ :=
    ⟨usable, rfl, awaits⟩
  obtain ⟨u, hrun, hu⟩ := run_submissions [] answered hfacing
  obtain ⟨c', hexchange, h'⟩ := hu.exchange complete executeCommand
  have hexecute : step (⟨u, .transaction (Submission.kept xs)⟩ : Session τ) .execute = _ :=
    step_execute_transaction hexchange
  rw [List.nil_append] at hrun
  exact {
    each := by
      rintro before x after rfl
      have hbefore : ∀ y ∈ before, Derives c.limits 0 y.answer.bytes y.answer.frame :=
        fun y hy => answered y (List.mem_append_left _ hy)
      have hx : Derives c.limits 0 x.answer.bytes x.answer.frame :=
        answered x (List.mem_append_right _ List.mem_cons_self)
      rw [Submission.answers, List.flatMap_append, List.flatMap_cons, List.append_assoc,
        List.append_assoc] at hfacing
      obtain ⟨v, hrun', hv⟩ := run_submissions [] hbefore hfacing
      obtain ⟨w, hstep, hw⟩ := step_submission (Submission.kept before) hx hv
      rw [List.nil_append] at hrun'
      rw [hrun', hstep, ← Phase.acknowledging_phase]
      exact ⟨rfl, Phase.acknowledged _ _ _, hw.usable⟩
    queue := by rw [hrun]
    committed := by
      rw [hrun, hexecute]
      exact Phase.committed _ _
    closed := by rw [hrun, hexecute]
    usable := by
      rw [hrun, hexecute]
      exact h'.usable
    left := by
      rw [hrun, hexecute]
      exact h'.awaits }

/-- Four commands, of which the first and the last are acknowledged, one is refused and one is answered
with a null payload. -/
def fourCommands : List Submission :=
  [⟨.ofKeyword "GET", .bulk, ⟨Bytes.ofAscii "+QUEUED\r\n", .status Shape.acknowledgement⟩⟩,
    ⟨.ofKeyword "GTE", .status, ⟨Bytes.ofAscii "-ERR\r\n", .error (Bytes.ofAscii "ERR")⟩⟩,
    ⟨.ofKeyword "GET", .flag, ⟨Bytes.ofAscii "$-1\r\n", .nullBulk⟩⟩,
    ⟨.ofKeyword "DBSIZE", .integer, ⟨Bytes.ofAscii "+QUEUED\r\n", .status Shape.acknowledgement⟩⟩]

def twoReplies : Reply :=
  ⟨Bytes.ofAscii "*2\r\n$1\r\nx\r\n:7\r\n", .array [.bulk [120], .integer 7]⟩

/-- A session in a transaction, over a stream that delivers all that in pieces of four bytes. -/
def midway : Session Scripted :=
  { connection := .ofTransport { replies := Submission.answers fourCommands ++ (twoReplies.bytes ++ [43]),
                                 readChunk := some 4, flushFailure := .closed }
    phase := .transaction [] }

theorem transaction_pairs_replies_midway :
    midway.phase = .transaction [] ∧ midway.isBroken = false ∧
      (∀ x ∈ fourCommands, Derives {} 0 x.answer.bytes x.answer.frame) ∧
      Derives {} 0 twoReplies.bytes twoReplies.frame ∧
      Awaits midway.connection.stream
        ⟨Submission.answers fourCommands ++ (twoReplies.bytes ++ [43]), none⟩ ∧
      TransactionRun midway fourCommands twoReplies.frame ⟨[43], none⟩ := by
  have hkept : Derives {} 0 (Bytes.ofAscii "+QUEUED\r\n") (.status Shape.acknowledgement) :=
    .status (by decide)
  have hrefused : Derives {} 0 (Bytes.ofAscii "-ERR\r\n") (.error (Bytes.ofAscii "ERR")) :=
    .error (by decide)
  have hnull : Derives {} 0 (Bytes.ofAscii "$-1\r\n") .nullBulk :=
    @Derives.nullBulk {} 0 (Bytes.ofAscii "-1") _ (by decide) (by decide)
  have hx : Derives {} 1 (Bytes.ofAscii "$1\r\nx\r\n") (.bulk [120]) :=
    @Derives.bulk {} 1 (Bytes.ofAscii "1") (Bytes.ofAscii "$1\r\n") [120] (by decide) (by decide)
      (by decide)
  have hseven : Derives {} 1 (Bytes.ofAscii ":7\r\n") (.integer 7) :=
    @Derives.integer {} 1 (Bytes.ofAscii "7") _ (by decide)
  have hfinal : Derives {} 0 twoReplies.bytes twoReplies.frame :=
    @Derives.array {} 0 (Bytes.ofAscii "2") (Bytes.ofAscii "*2\r\n")
      [⟨Bytes.ofAscii "$1\r\nx\r\n", .bulk [120]⟩, ⟨Bytes.ofAscii ":7\r\n", .integer 7⟩] (by decide)
      (by decide) (by decide) (by decide) (by simp [hx, hseven])
  have hanswered : ∀ x ∈ fourCommands, Derives {} 0 x.answer.bytes x.answer.frame := by
    simp only [fourCommands, List.forall_mem_cons]
    exact ⟨hkept, hrefused, hnull, hkept, by simp⟩
  have hawaits : Awaits midway.connection.stream
      ⟨Submission.answers fourCommands ++ (twoReplies.bytes ++ [43]), none⟩ :=
    ⟨_, rfl, Scripted.steady ⟨by decide, by decide, rfl, rfl⟩⟩
  exact ⟨rfl, rfl, hanswered, hfinal, hawaits,
    transaction_pairs_replies rfl rfl hanswered hfinal hawaits⟩

end Session

end StoreClient
