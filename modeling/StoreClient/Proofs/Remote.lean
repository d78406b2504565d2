import Mathlib.Logic.Relation
import StoreClient.Proofs.Command.Splitting
import StoreClient.Session

/-!
# `StoreClient/Proofs/Remote.lean` — a remote side that knows transactions

A session only guesses what the remote side is in the middle of. To say that the guess is right, the remote
side has to be there: a `Remote` has bytes that came in and are not worked on yet, the commands of the open
transaction if there is one, bytes that are to go out, and a list of what it answered. It **works on complete
commands in order**, at moments of its own choosing, and puts one reply for each into its outbox.

What it replies is free within `Answers`. A transaction may be refused, a command inside it may be
rejected, an execution may be given up, and the replies themselves are any replies within the limits.
-/

set_option autoImplicit false

namespace StoreClient

/-- What a command is to a remote side that knows transactions. -/
inductive Verb where
  | begins
  | executes
  | discards
  | other
  deriving DecidableEq

/-- How a remote side tells its commands apart. It may do so in any way, as long as it knows the three
commands that a session sends for transactions. -/
structure Dialect where
  verb : Command → Verb
  begins : verb Session.beginCommand = .begins
  executes : verb Session.executeCommand = .executes
  discards : verb Session.discardCommand = .discards

structure Remote where
  inbox : Bytes := []
  /-- The commands of the open transaction. -/
  queue : Option (List Command) := none
  outbox : Bytes := []
  /-- The commands that were answered and their answers, newest first. -/
  answered : List (Command × Frame) := []

namespace Remote

/-- What a command may be answered with in and outside a transaction, and what becomes of the
transaction. -/
inductive Answers (dialect : Dialect) :
    Option (List Command) → Command → Frame → Option (List Command) → Prop where
  -- Outside a transaction.
  | opened {command : Command} (verb : dialect.verb command = .begins) :
      Answers dialect none command (.status (Bytes.ofAscii "OK")) (some [])
  | refused {command : Command} {line : Bytes} (verb : dialect.verb command = .begins) :
      Answers dialect none command (.error line) none
  | plain {command : Command} {reply : Frame} (verb : dialect.verb command ≠ .begins) :
      Answers dialect none command reply none
  -- Inside.
  | executed {queue : List Command} {command : Command} {replies : List Frame}
      (verb : dialect.verb command = .executes) (each : replies.length = queue.length) :
      Answers dialect (some queue) command (.array replies) none
  | aborted {queue : List Command} {command : Command} (verb : dialect.verb command = .executes) :
      Answers dialect (some queue) command .nullArray none
  | failed {queue : List Command} {command : Command} {line : Bytes}
      (verb : dialect.verb command = .executes) :
      Answers dialect (some queue) command (.error line) none
  | dropped {queue : List Command} {command : Command} (verb : dialect.verb command = .discards) :
      Answers dialect (some queue) command (.status (Bytes.ofAscii "OK")) none
  | queued {queue : List Command} {command : Command} (more : dialect.verb command ≠ .executes)
      (still : dialect.verb command ≠ .discards) :
      Answers dialect (some queue) command (.status Shape.acknowledgement) (some (queue ++ [command]))
  | rejected {queue : List Command} {command : Command} {line : Bytes}
      (more : dialect.verb command ≠ .executes) (still : dialect.verb command ≠ .discards) :
      Answers dialect (some queue) command (.error line) (some queue)

inductive Work (dialect : Dialect) (limits : Limits) : Remote → Remote → Prop where
  | answer {inbox outbox : Bytes} {queue queue' : Option (List Command)}
      {answered : List (Command × Frame)} {command : Command} {reply : Reply}
      (complete : Derives limits 0 reply.bytes reply.frame)
      (answers : Answers dialect queue command reply.frame queue') :
      Work dialect limits ⟨command.encode ++ inbox, queue, outbox, answered⟩
        ⟨inbox, queue', outbox ++ reply.bytes, (command, reply.frame) :: answered⟩

def Works (dialect : Dialect) (limits : Limits) : Remote → Remote → Prop :=
  Relation.ReflTransGen (Work dialect limits)

/-- There is something to deliver, or a command to be answered first. -/
def Ready (r : Remote) : Prop :=
  r.outbox ≠ [] ∨ ∃ (command : Command) (rest : Bytes), r.inbox = command.encode ++ rest

def feed (r : Remote) (bytes : Bytes) : Remote :=
  { r with inbox := r.inbox ++ bytes }

/-- The remote side as it is seen by a reader who will get some bytes first. -/
def behind (r : Remote) (bytes : Bytes) : Remote :=
  { r with outbox := bytes ++ r.outbox }

@[simp]
theorem feed_nil (r : Remote) : r.feed [] = r := by simp [feed]

@[simp]
theorem feed_feed (r : Remote) (p q : Bytes) : (r.feed p).feed q = r.feed (p ++ q) := by
  simp [feed]

@[simp]
theorem behind_nil (r : Remote) : r.behind [] = r := rfl

@[simp]
theorem behind_behind (r : Remote) (p q : Bytes) : (r.behind p).behind q = r.behind (q ++ p) := by
  simp [behind]

/-- What a reader gets next, and what there is behind it, can be told from what is seen. -/
theorem behind_cons_inj {r r' : Remote} {x y : UInt8} {p : Bytes}
    (h : r.behind [y] = r'.behind (x :: p)) : y = x ∧ r = r'.behind p := by
  obtain ⟨inbox, queue, outbox, answered⟩ := r
  simp only [behind, mk.injEq, List.cons_append, List.cons.injEq] at h
  obtain ⟨rfl, rfl, ⟨rfl, rfl⟩, rfl⟩ := h
  exact ⟨rfl, rfl⟩

variable {dialect : Dialect} {limits : Limits} {r r' : Remote}

/-! ## Work does not look at what follows or at what has been done -/

theorem Work.feed (h : Work dialect limits r r') (bytes : Bytes) :
    Work dialect limits (r.feed bytes) (r'.feed bytes) := by
  cases h with
  | answer complete answers =>
    unfold Remote.feed
    rw [List.append_assoc]
    exact .answer complete answers

theorem Works.feed (h : Works dialect limits r r') (bytes : Bytes) :
    Works dialect limits (r.feed bytes) (r'.feed bytes) :=
  Relation.ReflTransGen.lift (Remote.feed · bytes)
    (fun _ _ (hwork : Work dialect limits _ _) => hwork.feed bytes) _ _ h

theorem Works.trans {r'' : Remote} (h : Works dialect limits r r') (h' : Works dialect limits r' r'') :
    Works dialect limits r r'' :=
  Relation.ReflTransGen.trans h h'

theorem Work.behind (h : Work dialect limits r r') (p : Bytes) :
    Work dialect limits (r.behind p) (r'.behind p) := by
  cases h with
  | answer complete answers =>
    unfold Remote.behind
    rw [← List.append_assoc]
    exact .answer complete answers

theorem Works.behind (h : Works dialect limits r r') (p : Bytes) :
    Works dialect limits (r.behind p) (r'.behind p) :=
  Relation.ReflTransGen.lift (Remote.behind · p)
    (fun _ _ (hwork : Work dialect limits _ _) => hwork.behind p) _ _ h

/-- Whoever gets some bytes first sees the same work behind them. -/
theorem Works.of_behind {p : Bytes} (h : Works dialect limits (r.behind p) r') :
    ∃ r₁, r' = r₁.behind p ∧ Works dialect limits r r₁ := by
  induction h with
  | refl => exact ⟨r, rfl, .refl⟩
  | tail _ hwork ih =>
    -- A reply is put behind all that is there, so the bytes in front stay in front.
    obtain ⟨⟨inbox, queue, outbox, answered⟩, rfl, hworks⟩ := ih
    cases hwork with
    | answer complete answers =>
      refine ⟨_, ?_, hworks.tail (.answer complete answers)⟩
      simp only [Remote.behind, List.append_assoc]

/-! ## Commands are answered in order -/

/-- With nothing in the inbox there is no work. -/
theorem Works.eq_of_inbox_nil (h : Works dialect limits r r') (hinbox : r.inbox = []) : r' = r := by
  rcases Relation.ReflTransGen.cases_head h with rfl | ⟨r₁, hwork, _⟩
  · rfl
  · cases hwork with
    | @answer inbox _ _ _ _ command _ complete answers =>
      exact absurd (List.append_eq_nil_iff.mp hinbox).1 command.encode_ne_nil

/-- Either nothing has been done, or the first command has been answered and all else was done behind its
reply. -/
theorem Works.first {command : Command} {rest : Bytes} {queue : Option (List Command)}
    {answered : List (Command × Frame)}
    (h : Works dialect limits ⟨command.encode ++ rest, queue, [], answered⟩ r') :
    r' = ⟨command.encode ++ rest, queue, [], answered⟩ ∨
      ∃ (reply : Reply) (queue' : Option (List Command)) (r₁ : Remote),
        Derives limits 0 reply.bytes reply.frame ∧ Answers dialect queue command reply.frame queue' ∧
          r' = r₁.behind reply.bytes ∧
          Works dialect limits ⟨rest, queue', [], (command, reply.frame) :: answered⟩ r₁ := by
  rcases Relation.ReflTransGen.cases_head h with rfl | ⟨mid, hwork, hworks⟩
  · exact .inl rfl
  · generalize hinbox : command.encode ++ rest = inbox at hwork
    cases hwork with
    | @answer inbox' _ _ queue' _ command' reply complete answers =>
      -- The command at the front is the one that was put there.
      obtain ⟨rfl, rfl⟩ := Command.encode_prefix_free hinbox
      have hbehind : Works dialect limits
          ((⟨rest, queue', [], (command, reply.frame) :: answered⟩ : Remote).behind reply.bytes) r' := by
        simpa [Remote.behind, Works] using hworks
      obtain ⟨r₁, hr₁, hworks₁⟩ := hbehind.of_behind
      exact .inr ⟨reply, queue', r₁, complete, answers, hr₁, hworks₁⟩

/-- As long as the first command is not answered for the reader, there is something to come. -/
theorem Works.ready {command : Command} {rest : Bytes} {queue : Option (List Command)}
    {answered : List (Command × Frame)}
    (h : Works dialect limits ⟨command.encode ++ rest, queue, [], answered⟩ r') : r'.Ready := by
  rcases h.first with rfl | ⟨reply, _, r₁, complete, _, rfl, _⟩
  · exact .inr ⟨command, rest, rfl⟩
  · exact .inl (List.append_ne_nil_of_left_ne_nil complete.ne_nil _)

/-! ## What an answer makes of the transaction -/

/-- Outside a transaction, nothing but the command that opens one does. -/
theorem Answers.none_of_plain {command : Command} {reply : Frame} {queue' : Option (List Command)}
    (h : Answers dialect none command reply queue') (verb : dialect.verb command ≠ .begins) :
    queue' = none := by
  cases h with
  | opened begins => exact absurd begins verb
  | _ => rfl

/-- Inside one, it is over once it is executed or dropped, whatever the answer is. -/
theorem Answers.none_of_closing {queue : List Command} {command : Command} {reply : Frame}
    {queue' : Option (List Command)} (h : Answers dialect (some queue) command reply queue')
    (verb : dialect.verb command = .executes ∨ dialect.verb command = .discards) : queue' = none := by
  cases h with
  | queued more still | rejected more still => exact absurd verb (not_or.mpr ⟨more, still⟩)
  | _ => rfl

end Remote

end StoreClient
