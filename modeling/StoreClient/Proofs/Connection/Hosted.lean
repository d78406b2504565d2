import StoreClient.Proofs.Connection
import StoreClient.Proofs.Transport.Hosted

/-!
# `StoreClient/Proofs/Connection/Hosted.lean` — a connection to a remote side

Over a stream that leads to a remote side every exchange succeeds, and what it returns is what the remote
side answered: one command has its answer (`Hosted.exchange`), and a number of commands have theirs, read
one after the other (`Hosted.exchangeAll`). After an exchange nothing is under way in either direction.

The remote side itself may be anywhere with its work while an exchange is going on. `Hosted host start c`
pins it down from the other end: what it is seen as can be reached from `start`.
-/

set_option autoImplicit false

namespace StoreClient

namespace Connection

variable {τ : Type} [Transport τ] {host : Host τ}

/-- The connection is usable, and work leads from `start` to what the remote side is seen as. -/
structure Hosted (host : Host τ) (start : Remote) (c : Connection τ) : Prop where
  usable : c.broken = false
  limits_eq : c.limits = host.limits
  works : host.Works start (host.seen c.stream)

/-- With an empty inbox to start from there is no work, and then nothing is under way. -/
theorem Hosted.quiet {queue : Option (List Command)} {answered : List (Command × Frame)}
    {c : Connection τ} (h : Hosted host ⟨[], queue, [], answered⟩ c) :
    host.remote c.stream.transport = ⟨[], queue, [], answered⟩ ∧ c.stream.buffer = [] := by
  have hseen : host.seen c.stream = ⟨[], queue, [], answered⟩ :=
    Remote.Works.eq_of_inbox_nil h.works rfl
  unfold Host.seen at hseen
  generalize host.remote c.stream.transport = remote at hseen ⊢
  obtain ⟨inbox, queue', outbox, answered'⟩ := remote
  simp only [Remote.behind, Remote.mk.injEq, List.append_eq_nil_iff] at hseen
  obtain ⟨rfl, rfl, ⟨hbuffer, rfl⟩, rfl⟩ := hseen
  exact ⟨rfl, hbuffer⟩

theorem Hosted.write {start : Remote} {c : Connection τ} (h : Hosted host start c) (bytes : Bytes) :
    ∃ c', Connection.write bytes c = .ok () c' ∧ Hosted host (start.feed bytes) c' := by
  obtain ⟨stream, hdeliver, hworks⟩ := host.deliver bytes c.stream
  refine ⟨{ c with stream }, ?_, h.usable, h.limits_eq, (h.works.feed bytes).trans hworks⟩
  exact guarded_eq_ok.mpr ⟨h.usable, stream, Action.ofStream_eq_ok.mpr hdeliver, rfl⟩

theorem Hosted.readFrame {command : Command} {rest : Bytes} {queue : Option (List Command)}
    {answered : List (Command × Frame)} {c : Connection τ}
    (h : Hosted host ⟨command.encode ++ rest, queue, [], answered⟩ c) :
    ∃ reply queue' c', Connection.readFrame c = .ok reply c' ∧
      Remote.Answers host.dialect queue command reply queue' ∧
      Hosted host ⟨rest, queue', [], (command, reply) :: answered⟩ c' := by
  obtain ⟨reply, queue', stream, hread, hanswers, hworks⟩ := host.reads h.works
  refine ⟨reply, queue', { c with stream }, ?_, hanswers, h.usable, h.limits_eq, hworks⟩
  refine guarded_eq_ok.mpr ⟨h.usable, stream, ?_, rfl⟩
  rw [h.limits_eq]
  exact hread

/-- **A command gets its answer.** -/
theorem Hosted.exchange {queue : Option (List Command)} {answered : List (Command × Frame)}
    {c : Connection τ} (h : Hosted host ⟨[], queue, [], answered⟩ c) (command : Command) :
    ∃ reply queue' c', Connection.exchange command c = .ok reply c' ∧
      Remote.Answers host.dialect queue command reply queue' ∧
      Hosted host ⟨[], queue', [], (command, reply) :: answered⟩ c' := by
  obtain ⟨u, hsend, hu⟩ := h.write command.encode
  have hfed : Hosted host ⟨command.encode ++ [], queue, [], answered⟩ u := by
    simpa [Remote.feed] using hu
  obtain ⟨reply, queue', c', hread, hanswers, h'⟩ := hfed.readFrame
  exact ⟨reply, queue', c', (Action.bind_of_ok hsend).trans hread, hanswers, h'⟩

/-- The list of what was answered, after commands got these answers one after the other. -/
def record (commands : List Command) (replies : List Frame) (answered : List (Command × Frame)) :
    List (Command × Frame) :=
  (commands.zip replies).reverse ++ answered

theorem record_cons (command : Command) (commands : List Command) (reply : Frame) (replies : List Frame)
    (answered : List (Command × Frame)) :
    record (command :: commands) (reply :: replies) answered =
      record commands replies ((command, reply) :: answered) := by
  simp [record]

/-- Commands that are in the inbox outside a transaction, and open none, are answered one after the
other. -/
theorem Hosted.replies {pairs : List (Command × Shape)} {answered : List (Command × Frame)}
    {c : Connection τ} (h : Hosted host ⟨pairs.flatMap fun p => p.1.encode, none, [], answered⟩ c)
    (plain : ∀ p ∈ pairs, host.dialect.verb p.1 ≠ .begins) :
    ∃ replies c', replies.length = pairs.length ∧
      (pairs.map Prod.snd).mapM readReply c =
        .ok (List.zipWith Shape.decode (pairs.map Prod.snd) replies) c' ∧
      Hosted host ⟨[], none, [], record (pairs.map Prod.fst) replies answered⟩ c' := by
  induction pairs generalizing answered c with
  | nil => exact ⟨[], c, rfl, rfl, h⟩
  | cons p pairs ih =>
    obtain ⟨reply, queue', u, hread, hanswers, hu⟩ := h.readFrame
    -- No transaction was opened, so the other commands are answered outside one as well.
    have hnone : queue' = none := hanswers.none_of_plain (plain p List.mem_cons_self)
    subst hnone
    obtain ⟨replies, c', hlen, hrest, h'⟩ := ih hu fun q hq => plain q (List.mem_cons_of_mem p hq)
    have hreply : readReply p.2 c = .ok (p.2.decode reply) u := Action.bind_of_ok hread
    refine ⟨reply :: replies, c', congrArg (· + 1) hlen, ?_, ?_⟩
    · rw [List.map_cons, List.mapM_cons, Action.bind_of_ok hreply, Action.bind_of_ok hrest]
      rfl
    · rw [List.map_cons, record_cons]
      exact h'

/-- **So are the commands of a pipeline**, all of which go out before the first reply is read. -/
theorem Hosted.exchangeAll {pairs : List (Command × Shape)} {answered : List (Command × Frame)}
    {c : Connection τ} (h : Hosted host ⟨[], none, [], answered⟩ c)
    (plain : ∀ p ∈ pairs, host.dialect.verb p.1 ≠ .begins) :
    ∃ replies c', replies.length = pairs.length ∧
      Connection.exchangeAll (pairs.flatMap fun p => p.1.encode) (pairs.map Prod.snd) c =
        .ok (List.zipWith Shape.decode (pairs.map Prod.snd) replies) c' ∧
      Hosted host ⟨[], none, [], record (pairs.map Prod.fst) replies answered⟩ c' := by
  by_cases hout : (pairs.flatMap fun p => p.1.encode) = []
  · have hfed : Hosted host ⟨pairs.flatMap fun p => p.1.encode, none, [], answered⟩ c := by
      rw [hout]
      exact h
    rw [hout, exchangeAll_nil]
    exact hfed.replies plain
  · obtain ⟨u, hwrite, hu⟩ := h.write (pairs.flatMap fun p => p.1.encode)
    rw [exchangeAll_of_ne_nil hout, Action.bind_of_ok hwrite]
    exact Hosted.replies hu plain

end Connection

end StoreClient
