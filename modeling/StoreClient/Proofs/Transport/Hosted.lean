import StoreClient.Proofs.Remote
import StoreClient.Proofs.Reply.Reader
import StoreClient.Transport.Buffered

/-!
# `StoreClient/Proofs/Transport/Hosted.lean` — a transport with a remote side behind it

A `Host` is a transport that leads to a `Remote`. What is written comes into the inbox, and what is read
comes out of the outbox; in which pieces, and how far the remote side has come meanwhile, is open. The
stream never fails, and a read has bytes to give if there is a command that is to be answered.

When the remote side works is thus never known, but it does not matter. **Once commands are in the
inbox, the reader gets an answer to each of them, in order** (`Host.reads`), and the rest of the work is
ahead as if it had not begun.
-/

set_option autoImplicit false

namespace StoreClient

open StoreClient.Action

/-- A transport with a remote side behind it, which may work at any time. -/
structure Host (τ : Type) [Transport τ] where
  dialect : Dialect
  limits : Limits
  remote : τ → Remote
  write : ∀ (t : τ) (bytes : Bytes), bytes ≠ [] →
    ∃ accepted t', 0 < accepted ∧ Transport.write bytes t = .ok accepted t' ∧
      Remote.Works dialect limits ((remote t).feed (bytes.take accepted)) (remote t')
  flush : ∀ t : τ, ∃ t', Transport.flush t = .ok () t' ∧
    Remote.Works dialect limits (remote t) (remote t')
  read : ∀ (t : τ) (atMost : Nat), (remote t).Ready → 0 < atMost →
    ∃ piece t', piece ≠ [] ∧ Transport.read atMost t = .ok piece t' ∧
      Remote.Works dialect limits (remote t) ((remote t').behind piece)

namespace Host

variable {τ : Type} [Transport τ] (host : Host τ)

abbrev Works : Remote → Remote → Prop :=
  Remote.Works host.dialect host.limits

/-- The remote side as it is seen through the buffer. -/
def seen (b : Buffered τ) : Remote :=
  (host.remote b.transport).behind b.buffer

/-! ## Writing -/

theorem writeAll (bytes : Bytes) (t : τ) :
    ∃ t', Transport.writeAll bytes t = .ok () t' ∧
      host.Works ((host.remote t).feed bytes) (host.remote t') := by
  induction bytes using Transport.writeAll.induct generalizing t with
  | case1 =>
    refine ⟨t, ?_, ?_⟩
    · rw [Transport.writeAll, pure_apply]
    · rw [Remote.feed_nil]
      exact .refl
  | case2 b rest ih =>
    obtain ⟨accepted, u, hpos, hwrite, hworks⟩ := host.write t (b :: rest) (List.cons_ne_nil b rest)
    obtain ⟨n, rfl⟩ := Nat.exists_eq_add_of_lt hpos
    rw [Nat.zero_add] at hwrite hworks
    obtain ⟨t', hrest, hworks'⟩ := ih n u
    refine ⟨t', ?_, ?_⟩
    · rw [Transport.writeAll, bind_of_ok hwrite]
      exact hrest
    · -- The work that was done in between could have been done after the last byte as well.
      have hfirst := hworks.feed (rest.drop n)
      rw [Remote.feed_feed, List.take_succ_cons, List.cons_append, List.take_append_drop] at hfirst
      exact hfirst.trans hworks'

theorem deliver (bytes : Bytes) (b : Buffered τ) :
    ∃ b', Buffered.deliver bytes b = .ok () b' ∧
      host.Works ((host.seen b).feed bytes) (host.seen b') := by
  obtain ⟨u, hwrite, hworks⟩ := host.writeAll bytes b.transport
  obtain ⟨t', hflush, hworks'⟩ := host.flush u
  have hdeliver : Transport.deliver bytes b.transport = .ok () t' := by
    unfold Transport.deliver
    rw [bind_of_ok hwrite]
    exact hflush
  refine ⟨{ b with transport := t' }, ?_, ?_⟩
  · simp only [Buffered.deliver, hdeliver]
  · exact (hworks.trans hworks').behind b.buffer

/-! ## Reading -/

theorem next {b : Buffered τ} (hready : (host.seen b).Ready) :
    ∃ x b', ByteSource.next b = .ok (some x) b' ∧
      host.Works (host.seen b) ((host.seen b').behind [x]) := by
  obtain ⟨t, buffer⟩ := b
  cases buffer with
  | cons x rest =>
    refine ⟨x, ⟨t, rest⟩, rfl, ?_⟩
    simp only [seen, Remote.behind_behind, List.singleton_append]
    exact .refl
  | nil =>
    obtain ⟨piece, t', hpiece, hread, hworks⟩ := host.read t Buffered.capacity hready (by decide)
    cases piece with
    | nil => exact absurd rfl hpiece
    | cons x rest =>
      refine ⟨x, ⟨t', rest⟩, ?_, ?_⟩
      · show Buffered.next ⟨t, []⟩ = _
        simp only [Buffered.next, hread]
      · simpa [seen] using hworks

/-- Bytes that stand before everything else are what the reader gets. -/
theorem delivers {start r : Remote} {p : Bytes} {b : Buffered τ} (hworks : host.Works start r)
    (hseen : host.seen b = r.behind p) : ∃ b', Delivers b p b' ∧ host.Works start (host.seen b') := by
  induction p generalizing b r with
  | nil =>
    refine ⟨b, .nothing b, ?_⟩
    rwa [hseen, Remote.behind_nil]
  | cons x p ih =>
    have hready : (host.seen b).Ready := by
      rw [hseen]
      exact .inl (List.cons_ne_nil x _)
    obtain ⟨y, b₁, hnext, hworks₁⟩ := host.next hready
    rw [hseen] at hworks₁
    -- Whatever was done meanwhile was done behind the bytes that are still to come.
    obtain ⟨r₁, hr₁, hmore⟩ := Remote.Works.of_behind hworks₁
    obtain ⟨rfl, hseen₁⟩ := Remote.behind_cons_inj hr₁
    obtain ⟨b', hrest, hworks'⟩ := ih (hworks.trans hmore) hseen₁
    exact ⟨b', .byte hnext hrest, hworks'⟩

/-- **The reader gets the answer to the first command**, and then the remote side is seen as if that had
never been sent. -/
theorem reads {b : Buffered τ} {command : Command} {rest : Bytes} {queue : Option (List Command)}
    {answered : List (Command × Frame)}
    (hworks : host.Works ⟨command.encode ++ rest, queue, [], answered⟩ (host.seen b)) :
    ∃ reply queue' b', Frame.read host.limits b = .ok reply b' ∧
      Remote.Answers host.dialect queue command reply queue' ∧
      host.Works ⟨rest, queue', [], (command, reply) :: answered⟩ (host.seen b') := by
  obtain ⟨x, b₁, hnext, hmore⟩ := host.next (Remote.Works.ready hworks)
  -- A byte came, so there is an answer, and the byte is the first of it.
  rcases Remote.Works.first (hworks.trans hmore) with
    hsame | ⟨⟨bytes, frame⟩, queue', r₁, complete, answers, hr₁, hworks₁⟩
  · cases congrArg Remote.outbox hsame
  · cases bytes with
    | nil => exact absurd rfl complete.ne_nil
    | cons y p =>
      obtain ⟨rfl, hseen⟩ := Remote.behind_cons_inj hr₁
      obtain ⟨b', hdelivers, hworks'⟩ := host.delivers hworks₁ hseen
      refine ⟨frame, queue', b', ?_, answers, hworks'⟩
      exact Frame.read_eq_ok_iff.mpr ⟨_, .byte hnext hdelivers, complete⟩

end Host

/-! ## A remote side in memory -/

/-- The dialect in which each of the three commands is spelt in one way only. -/
def Dialect.literal : Dialect where
  verb command :=
    if command = Session.beginCommand then .begins
    else if command = Session.executeCommand then .executes
    else if command = Session.discardCommand then .discards
    else .other
  begins := by decide
  executes := by decide
  discards := by decide

/-- A remote side in memory. It keeps one command of a transaction and rejects the others, and works when it
is read and has nothing to deliver. -/
structure Modest where
  side : Remote := {}

namespace Modest

def ok : Reply :=
  ⟨Bytes.ofAscii "+OK\r\n", .status (Bytes.ofAscii "OK")⟩

def kept : Reply :=
  ⟨Bytes.ofAscii "+QUEUED\r\n", .status Shape.acknowledgement⟩

def full : Reply :=
  ⟨Bytes.ofAscii "-FULL\r\n", .error (Bytes.ofAscii "FULL")⟩

/-- The replies to a transaction; one of more commands cannot have come about. -/
def executed : List Command → Reply
  | [] => ⟨Bytes.ofAscii "*0\r\n", .array []⟩
  | [_] => ⟨Bytes.ofAscii "*1\r\n+OK\r\n", .array [.status (Bytes.ofAscii "OK")]⟩
  | _ => ⟨Bytes.ofAscii "*-1\r\n", .nullArray⟩

/-- The reply to a command, and what becomes of the transaction. -/
def reply : Option (List Command) → Command → Reply × Option (List Command)
  | none, command => (ok, if Dialect.literal.verb command = .begins then some [] else none)
  | some queue, command =>
    match Dialect.literal.verb command with
    | .executes => (executed queue, none)
    | .discards => (ok, none)
    | _ => if queue = [] then (kept, some (queue ++ [command])) else (full, some queue)

theorem complete_executed (queue : List Command) :
    Derives {} 0 (executed queue).bytes (executed queue).frame := by
  have hok : Derives {} 1 ok.bytes ok.frame := .status (by decide)
  match queue with
  | [] =>
    exact @Derives.array {} 0 (Bytes.ofAscii "0") (Bytes.ofAscii "*0\r\n") [] (by decide) (by decide)
      (by decide) (by decide) (List.forall_mem_nil _)
  | [_] =>
    exact @Derives.array {} 0 (Bytes.ofAscii "1") (Bytes.ofAscii "*1\r\n") [ok] (by decide) (by decide)
      (by decide) (by decide) (List.forall_mem_singleton.mpr hok)
  | _ :: _ :: _ =>
    exact @Derives.nullArray {} 0 (Bytes.ofAscii "-1") (Bytes.ofAscii "*-1\r\n") (-1) (by decide)
      (by decide) (by decide)

theorem complete_reply (queue : Option (List Command)) (command : Command) :
    Derives {} 0 (reply queue command).1.bytes (reply queue command).1.frame := by
  have hok : Derives {} 0 ok.bytes ok.frame := .status (by decide)
  have hkept : Derives {} 0 kept.bytes kept.frame := .status (by decide)
  have hfull : Derives {} 0 full.bytes full.frame := .error (by decide)
  cases queue with
  | none => exact hok
  | some queue =>
    rw [reply]
    split
    · exact complete_executed queue
    · exact hok
    · split
      · exact hkept
      · exact hfull

theorem answers_reply (queue : Option (List Command)) (command : Command) :
    Remote.Answers .literal queue command (reply queue command).1.frame (reply queue command).2 := by
  cases queue with
  | none =>
    rw [reply]
    split
    · exact .opened ‹_›
    · exact .plain ‹_›
  | some queue =>
    rw [reply]
    split
    · match queue with
      | [] | [_] => exact .executed ‹_› rfl
      | _ :: _ :: _ => exact .aborted ‹_›
    · exact .dropped ‹_›
    · split
      · exact .queued ‹_› ‹_›
      · exact .rejected ‹_› ‹_›

def work (r : Remote) : Remote :=
  match Command.split? r.inbox with
  | none => r
  | some (command, rest) =>
    ⟨rest, (reply r.queue command).2, r.outbox ++ (reply r.queue command).1.bytes,
      (command, (reply r.queue command).1.frame) :: r.answered⟩

def prepare (r : Remote) : Remote :=
  if r.outbox = [] then work r else r

instance : Transport Modest where
  read atMost := fun t =>
    let side := prepare t.side
    .ok (side.outbox.take atMost) ⟨{ side with outbox := side.outbox.drop atMost }⟩
  write bytes := fun t => .ok bytes.length ⟨t.side.feed bytes⟩
  flush := fun t => .ok () t

theorem work_of_front {r : Remote} {command : Command} {rest : Bytes}
    (hfront : r.inbox = command.encode ++ rest) :
    Remote.Work .literal {} r (work r) ∧ (work r).outbox ≠ [] := by
  obtain ⟨inbox, queue, outbox, answered⟩ := r
  subst hfront
  have hcomplete := complete_reply queue command
  simp only [work, Command.split?_append]
  exact ⟨.answer hcomplete (answers_reply queue command),
    List.append_ne_nil_of_right_ne_nil _ hcomplete.ne_nil⟩

theorem prepare_of_ready {r : Remote} (hready : r.Ready) :
    Remote.Works .literal {} r (prepare r) ∧ (prepare r).outbox ≠ [] := by
  unfold prepare
  by_cases hout : r.outbox = []
  · obtain ⟨command, rest, hfront⟩ := hready.resolve_left fun h => h hout
    obtain ⟨hwork, hdeliver⟩ := work_of_front hfront
    rw [if_pos hout]
    exact ⟨.single hwork, hdeliver⟩
  · rw [if_neg hout]
    exact ⟨.refl, hout⟩

def host : Host Modest where
  dialect := .literal
  limits := {}
  remote := side
  write t bytes hne := by
    refine ⟨bytes.length, ⟨t.side.feed bytes⟩, List.length_pos_iff.mpr hne, rfl, ?_⟩
    rw [List.take_length]
    exact .refl
  flush t := ⟨t, rfl, .refl⟩
  read t atMost hready hpos := by
    obtain ⟨hworks, hout⟩ := prepare_of_ready hready
    refine ⟨_, _, ?_, rfl, ?_⟩
    · simpa [Nat.pos_iff_ne_zero.mp hpos] using hout
    · simpa [Remote.behind] using hworks

end Modest

end StoreClient
