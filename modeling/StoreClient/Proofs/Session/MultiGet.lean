import StoreClient.Proofs.Session.Pipelining
import StoreClient.Proofs.Session.Transaction
import StoreClient.Proofs.Shape.Arrays
import StoreClient.Request.Strings

/-!
# `StoreClient/Proofs/Session/MultiGet.lean` — each key gets its own value

The reply to a command that asks for the values of several keys does not name the keys. They are written
twice, into the command and into the shape that is kept for the reply, and in a batch all that is submitted in
the meantime comes between the two. If the one is off by a place against the other, a caller gets the value of
another key and no error.

Two things keep them together. A request is made with its shape, from one list of keys
(`AsksForValues`). And **a request gets the reply at its own place in every mode** (`ownReply`), whatever
other requests are around it; that has nothing to do with keys and holds for all requests alike.
-/

set_option autoImplicit false

namespace StoreClient

open StoreClient.Action
open Connection (Facing)

/-- The request as one of the commands of a batch. -/
def Request.answered (r : Request) (answer : Reply) : Submission :=
  ⟨r.command, r.shape, answer⟩

/-- What the answers mean if they are the replies themselves, and not acknowledgements. -/
def Submission.values (xs : List Submission) : List Value :=
  xs.map fun x => x.shape.decode x.answer.frame

namespace Session

variable {τ : Type} [Transport τ]

/-! ## Any request -/

section AnyRequest

variable {limits : Limits} {failure : Option IoError} {rest : Bytes}

theorem request_normal {c : Connection (Recorder τ)} {reply : Reply} (r : Request)
    (h : Facing limits c ⟨reply.bytes ++ rest, failure⟩)
    (complete : Derives limits 0 reply.bytes reply.frame) :
    ∃ c', request r (⟨c, .normal⟩ : Session (Recorder τ)) =
        .ok (r.shape.decode reply.frame) ⟨c', .normal⟩ ∧
      c'.sent = c.sent ++ r.command.encode ∧ Facing limits c' ⟨rest, failure⟩ := by
  obtain ⟨c', hexchange, h'⟩ := h.exchange complete r.command
  refine ⟨c', ?_, Connection.exchange_sent hexchange, h'⟩
  exact (submit_normal r.command r.shape c).trans (ask_of_ok hexchange)

theorem submitted_pipeline {c : Connection τ} (usable : c.broken = false) (xs : List Submission)
    (queue : List Shape) (outgoing : Bytes) :
    submitted (⟨c, .pipeline queue outgoing⟩ : Session τ) xs =
      ⟨c, .pipeline (queue ++ xs.map Submission.shape)
        (outgoing ++ xs.flatMap fun x => x.command.encode)⟩ := by
  induction xs generalizing queue outgoing with
  | nil => simp [submitted, run_nil]
  | cons x xs ih =>
    have hstep : step (⟨c, .pipeline queue outgoing⟩ : Session τ) x.call =
        (.ok (.value .queued), ⟨c, .pipeline (queue ++ [x.shape]) (outgoing ++ x.command.encode)⟩) :=
      step_of_ok (bind_of_ok (submit_held usable x.command x.shape queue outgoing))
    have hrest := ih (queue ++ [x.shape]) (outgoing ++ x.command.encode)
    rw [submitted] at hrest
    rw [submitted, List.map_cons, run_cons, hstep, hrest]
    simp

/-- The execution of a pipeline, over a stream that is going to deliver a reply to each command. -/
theorem execute_submitted_pipeline {c : Connection τ} {xs : List Submission}
    (h : Facing limits c ⟨Submission.answers xs ++ rest, failure⟩)
    (complete : ∀ x ∈ xs, Derives limits 0 x.answer.bytes x.answer.frame) :
    ∃ c', step (submitted (⟨c, .pipeline [] []⟩ : Session τ) xs) .execute =
        (.ok (.values (Submission.values xs)), ⟨c', .normal⟩) ∧
      Facing limits c' ⟨rest, failure⟩ := by
  obtain ⟨c', hx, h'⟩ := h.exchangeAll complete (xs.flatMap fun x => x.command.encode)
    Submission.shape
  have hexecute : execute (⟨c, .pipeline (xs.map Submission.shape)
      (xs.flatMap fun x => x.command.encode)⟩ : Session τ) =
      .ok (Submission.values xs) ⟨c', .normal⟩ := by
    rw [execute_pipeline]
    exact onConnection_of_ok hx
  refine ⟨c', ?_, h'⟩
  rw [submitted_pipeline h.usable, List.nil_append, List.nil_append]
  exact step_of_ok (bind_of_ok hexecute)

/-- The execution of a transaction, over a stream that is going to deliver an array with a reply to each
command that was acknowledged. -/
theorem execute_submitted_transaction {c : Connection τ} {xs : List Submission} {final : Reply}
    {replies : List Frame} (h : Facing limits c ⟨Submission.answers xs ++ (final.bytes ++ rest), failure⟩)
    (complete : ∀ x ∈ xs, Derives limits 0 x.answer.bytes x.answer.frame)
    (hfinal : Derives limits 0 final.bytes final.frame) (hframe : final.frame = .array replies)
    (hlen : replies.length = (Submission.kept xs).length) :
    ∃ c', step (submitted (⟨c, .transaction []⟩ : Session τ) xs) .execute =
        (.ok (.values (List.zipWith Shape.decode (Submission.kept xs) replies)), ⟨c', .normal⟩) ∧
      Facing limits c' ⟨rest, failure⟩ := by
  obtain ⟨u, hrun, hu⟩ := run_submissions [] complete h
  obtain ⟨c', hexchange, h'⟩ := hu.exchange hfinal executeCommand
  refine ⟨c', ?_, h'⟩
  rw [hrun, List.nil_append, step_execute_transaction hexchange,
    (Phase.committed _ _).values replies hframe hlen]

end AnyRequest

/-! ## In every mode -/

/-- The stream is going to deliver the replies, each of them within the limits, and then what is left. -/
structure Supplied (s : Session (Recorder τ)) (replies : List Reply) (left : Input) : Prop where
  complete : ∀ reply ∈ replies, Derives s.connection.limits 0 reply.bytes reply.frame
  awaits : Awaits s.connection.stream
    ⟨(replies.flatMap fun reply => reply.bytes) ++ left.rest, left.failure⟩

/-- The session is outside a batch, and its stream is going to deliver what is left. -/
def Finished (s : Session (Recorder τ)) (left : Input) : Prop :=
  s.phase = .normal ∧ Awaits s.connection.stream left

/-- A request gets its own reply: the next one outside a batch, and inside one the reply at the place that it
has among the commands of the batch. In a transaction only those count that were acknowledged. -/
structure OwnReply (r : Request) (s : Session (Recorder τ)) : Prop where
  normal : s.phase = .normal → ∀ reply left, Supplied s [reply] left →
    ∃ s', request r s = .ok (r.shape.decode reply.frame) s' ∧
      s'.connection.sent = s.connection.sent ++ r.command.encode ∧ Finished s' left
  pipeline : s.phase = .pipeline [] [] → ∀ before reply after left,
    Supplied s ((before ++ r.answered reply :: after).map Submission.answer) left →
    ∃ s', (s.submitted (before ++ r.answered reply :: after)).step .execute =
        (.ok (.values (Submission.values before ++
          r.shape.decode reply.frame :: Submission.values after)), s') ∧ Finished s' left
  transaction : s.phase = .transaction [] → ∀ before acknowledgement after final front item back left,
    acknowledgement.frame = .status Shape.acknowledgement →
    final.frame = .array (front ++ item :: back) →
    front.length = (Submission.kept before).length → back.length = (Submission.kept after).length →
    Supplied s ((before ++ r.answered acknowledgement :: after).map Submission.answer ++ [final]) left →
    ∃ s', (s.submitted (before ++ r.answered acknowledgement :: after)).step .execute =
        (.ok (.values (List.zipWith Shape.decode (Submission.kept before) front ++
          r.shape.decode item :: List.zipWith Shape.decode (Submission.kept after) back)), s') ∧
      Finished s' left

theorem ownReply {s : Session (Recorder τ)} (usable : s.isBroken = false) (r : Request) :
    OwnReply r s := by
  obtain ⟨c, phase⟩ := s
  exact {
    normal := by
      rintro rfl reply left ⟨complete, awaits⟩
      rw [List.flatMap_singleton] at awaits
      obtain ⟨c', hrequest, hsent, h'⟩ :=
        request_normal r ⟨usable, rfl, awaits⟩ (complete reply List.mem_cons_self)
      exact ⟨_, hrequest, hsent, rfl, h'.awaits⟩
    pipeline := by
      rintro rfl before reply after left ⟨complete, awaits⟩
      rw [List.flatMap_map] at awaits
      obtain ⟨c', hexecute, h'⟩ := execute_submitted_pipeline ⟨usable, rfl, awaits⟩
        (List.forall_mem_map.mp complete)
      refine ⟨⟨c', .normal⟩, hexecute.trans ?_, rfl, h'.awaits⟩
      simp [Submission.values, Request.answered]
    transaction := by
      rintro rfl before acknowledgement after final front item back left hkept hframe hfront hback
        ⟨complete, awaits⟩
      have hqueue : Submission.kept (before ++ r.answered acknowledgement :: after) =
          Submission.kept before ++ r.shape :: Submission.kept after := by
        simp [Submission.kept, Submission.isKept, Request.answered, hkept]
      obtain ⟨hanswers, hfinal⟩ := List.forall_mem_append.mp complete
      rw [List.flatMap_append, List.flatMap_map, List.flatMap_singleton, List.append_assoc] at awaits
      obtain ⟨c', hexecute, h'⟩ := execute_submitted_transaction ⟨usable, rfl, awaits⟩
        (List.forall_mem_map.mp hanswers) (hfinal final List.mem_cons_self) hframe
        (by simp [hqueue, hfront, hback])
      refine ⟨⟨c', .normal⟩, hexecute.trans ?_, rfl, h'.awaits⟩
      rw [hqueue, List.zipWith_append hfront.symm, List.zipWith_cons_cons] }

/-! ## The values of keys -/

/-- The request for the values of keys sends all of them, in order, and knows what it has sent. -/
structure AsksForValues (keys : List Bytes) (r : Request) : Prop where
  made : Request.mget keys = .ok r
  sends : r.command.parts = Bytes.ofAscii "MGET" :: keys
  ownValues : ∀ frame, Shape.OwnValues keys frame (r.shape.decode frame)

theorem asksForValues {keys : List Bytes} (nonempty : keys ≠ []) : ∃ r, AsksForValues keys r := by
  refine ⟨Request.of "MGET" keys (.valuesOf keys), ?_, rfl, Shape.ownValues_decode nonempty⟩
  simp [Request.mget, Request.overKeys, Request.requireKeys, nonempty]

/-- **Each key gets its own value**, whatever the keys are and whatever the reply is. -/
theorem mget_returns_own_values {keys : List Bytes} {s : Session (Recorder τ)} (nonempty : keys ≠ [])
    (usable : s.isBroken = false) :
    ∃ r, AsksForValues keys r ∧
      (attempt (Request.mget keys) : Action (Session (Recorder τ)) Value) = request r ∧
      OwnReply r s := by
  obtain ⟨r, hasks⟩ := asksForValues nonempty
  refine ⟨r, hasks, ?_, ownReply usable r⟩
  rw [hasks.made]
  rfl

/-- The values of two keys, where the one that was asked for twice has no value the second time. -/
def threeItems : Reply :=
  ⟨Bytes.ofAscii "*3\r\n$1\r\nx\r\n$1\r\ny\r\n$-1\r\n", .array [.bulk [120], .bulk [121], .nullBulk]⟩

theorem threeItems_complete : Derives {} 0 threeItems.bytes threeItems.frame := by
  have hx : Derives {} 1 (Bytes.ofAscii "$1\r\nx\r\n") (.bulk [120]) :=
    @Derives.bulk {} 1 (Bytes.ofAscii "1") (Bytes.ofAscii "$1\r\n") [120] (by decide) (by decide)
      (by decide)
  have hy : Derives {} 1 (Bytes.ofAscii "$1\r\ny\r\n") (.bulk [121]) :=
    @Derives.bulk {} 1 (Bytes.ofAscii "1") (Bytes.ofAscii "$1\r\n") [121] (by decide) (by decide)
      (by decide)
  have hnull : Derives {} 1 (Bytes.ofAscii "$-1\r\n") .nullBulk :=
    @Derives.nullBulk {} 1 (Bytes.ofAscii "-1") _ (by decide) (by decide)
  exact @Derives.array {} 0 (Bytes.ofAscii "3") (Bytes.ofAscii "*3\r\n")
    [⟨Bytes.ofAscii "$1\r\nx\r\n", .bulk [120]⟩, ⟨Bytes.ofAscii "$1\r\ny\r\n", .bulk [121]⟩,
      ⟨Bytes.ofAscii "$-1\r\n", .nullBulk⟩] (by decide) (by decide) (by decide) (by decide)
    (by simp [hx, hy, hnull])

/-- A remote side that says this and then more, in pieces of two bytes. -/
def wellStocked : Scripted :=
  { replies := threeItems.bytes ++ [43], readChunk := some 2, flushFailure := .closed }

def askedTwice : List Bytes := [[97], [98], [97]]

theorem mget_returns_own_values_askedTwice :
    askedTwice ≠ [] ∧ (fresh wellStocked {}).isBroken = false ∧
      (∃ r, AsksForValues askedTwice r ∧
        (attempt (Request.mget askedTwice) : Action (Session (Recorder Scripted)) Value) = request r ∧
        OwnReply r (fresh wellStocked {})) ∧
      ∃ d s', attempt (Request.mget askedTwice) (fresh wellStocked {}) = .ok (.hash d) s' ∧
        d[([97] : Bytes)]? = some [120] := by
  have nonempty : askedTwice ≠ [] := by simp [askedTwice]
  have usable : (fresh wellStocked {}).isBroken = false := rfl
  obtain ⟨r, hasks, hcall, hown⟩ := mget_returns_own_values nonempty usable
  refine ⟨nonempty, usable, ⟨r, hasks, hcall, hown⟩, ?_⟩
  have hawaits : Awaits (fresh wellStocked {}).connection.stream ⟨threeItems.bytes ++ [43], none⟩ :=
    ⟨wellStocked.replies, rfl, (Scripted.steady ⟨by decide, by decide, rfl, rfl⟩).recorded []⟩
  have hsupplied : Supplied (fresh wellStocked {}) [threeItems] ⟨[43], none⟩ :=
    ⟨List.forall_mem_singleton.mpr threeItems_complete, by simpa using hawaits⟩
  obtain ⟨s', hrequest, -, -⟩ := hown.normal rfl threeItems _ hsupplied
  obtain ⟨d, hd, hholds⟩ := (hasks.ownValues threeItems.frame).values _ rfl rfl
    (by simp [Frame.IsValue])
  refine ⟨d, s', by rw [hcall, hrequest, hd], ?_⟩
  -- The null item at the last place does not count.
  refine (hholds.last _ _).mpr ⟨0, rfl, rfl, ?_⟩
  intro j w hj hkey hitem
  obtain ⟨hlt, -⟩ := List.getElem?_eq_some_iff.mp hkey
  have hcases : j = 1 ∨ j = 2 := by
    simp [askedTwice] at hlt
    omega
  rcases hcases with rfl | rfl <;> simp [askedTwice] at hkey hitem

end Session

end StoreClient
