import StoreClient.Proofs.Action.Agreement
import StoreClient.Proofs.Reply.Reader

/-!
# `StoreClient/Proofs/Reply/Cut.lean` — a reply that is cut short

A connection can end anywhere: inside a length, between the two bytes of a line end, behind a payload that
looks like a whole reply, between two items of an array. A reader must not take what it has for a reply, and
it must not blame the remote side either: what it got was right as far as it went.

Two inputs are compared, one of which ends where the other goes on (`CutBefore`). **A reader either comes to
the cut, and says that the stream ended too early, or it does on both inputs the same**
(`noticesCut_read`). Nothing is said of where the cut falls, so no kind of reply needs a case of its own. A
reply that is taken off the longer input to its last byte leaves only the first of the two
(`truncated_reply_ends_early`).
-/

set_option autoImplicit false

namespace StoreClient

open StoreClient.Action

/-- The first input ends where the second goes on. -/
def CutBefore (missing : Bytes) (failure : Option IoError) (s t : Input) : Prop :=
  s.failure = none ∧ t = ⟨s.rest ++ missing, failure⟩

/-- The bytes ran out, and the call failed for that. -/
def EndsEarly {α : Type} (outcome : EStateM.Result Error Input α) : Prop :=
  ∃ e, outcome = .error (.io e) ⟨[], none⟩ ∧ e.kind = .unexpectedEof

/-- On an input that is cut short the call ends early, or as it does on the whole. -/
def NoticesCut {α : Type} (call : Action Input α) : Prop :=
  ∀ missing failure s t, CutBefore missing failure s t →
    EndsEarly (call s) ∨ Alike (CutBefore missing failure) (CutBefore missing failure) (call s) (call t)

variable {α β : Type} {missing : Bytes} {failure : Option IoError} {s t : Input}

theorem CutBefore.next (h : CutBefore missing failure s t) :
    (s = ⟨[], none⟩ ∧ ByteSource.next s = .ok none s) ∨
      ∃ b s' t', ByteSource.next s = .ok (some b) s' ∧ ByteSource.next t = .ok (some b) t' ∧
        CutBefore missing failure s' t' := by
  obtain ⟨rest, failure'⟩ := s
  obtain ⟨rfl, rfl⟩ := h
  cases rest with
  | nil => exact .inl ⟨rfl, rfl⟩
  | cons b rest => exact .inr ⟨b, ⟨rest, none⟩, ⟨rest ++ missing, failure⟩, rfl, rfl, rfl, rfl⟩

/-! ## The two loops -/

/-- The search for the end of a line does not fail where the bytes run out. It says so, and its caller
fails. -/
theorem CutBefore.search (h : CutBefore missing failure s t) (room : Nat) (seen : Bytes) :
    (∃ found, pullLine room seen s = .ok (found, .endOfStream) ⟨[], none⟩) ∨
      Alike (CutBefore missing failure) (CutBefore missing failure) (pullLine room seen s)
        (pullLine room seen t) := by
  induction room generalizing seen s t with
  | zero => exact .inr (.returned h)
  | succ room ih =>
    rw [pullLine]
    rcases h.next with ⟨hs, hnext⟩ | ⟨b, s', t', hs, ht, h'⟩
    · rw [bind_of_ok hnext, hs]
      exact .inl ⟨seen, rfl⟩
    · rw [bind_of_ok hs, bind_of_ok ht]
      by_cases hb : b = Bytes.lf
      · simp only [if_pos hb]
        exact .inr (.returned h')
      · simp only [if_neg hb]
        exact ih h' (b :: seen)

theorem CutBefore.count (h : CutBefore missing failure s t) (count : Nat) (seen : Bytes) :
    pullExactly count seen s = .error .shortPayload ⟨[], none⟩ ∨
      Alike (CutBefore missing failure) (CutBefore missing failure) (pullExactly count seen s)
        (pullExactly count seen t) := by
  induction count generalizing seen s t with
  | zero => exact .inr (.returned h)
  | succ count ih =>
    rw [pullExactly]
    rcases h.next with ⟨hs, hnext⟩ | ⟨b, s', t', hs, ht, h'⟩
    · rw [bind_of_ok hnext, hs]
      exact .inl rfl
    · rw [bind_of_ok hs, bind_of_ok ht]
      exact ih h' (b :: seen)

/-! ## Chains of calls -/

namespace NoticesCut

theorem pure (a : α) : NoticesCut (pure a : Action Input α) :=
  fun _ _ _ _ h => .inr (.returned h)

theorem throw (e : Error) : NoticesCut (throw e : Action Input α) :=
  fun _ _ _ _ h => .inr (.failed h)

theorem ofCheck (check : Except ProtocolFault α) : NoticesCut (ofCheck check) := by
  cases check with
  | ok a => exact .pure a
  | error fault => exact .throw (.protocol fault)

theorem bind {call : Action Input α} {next : α → Action Input β} (hcall : NoticesCut call)
    (hnext : ∀ a, NoticesCut (next a)) : NoticesCut (call >>= next) := by
  intro missing failure s t h
  rcases hcall missing failure s t h with ⟨e, hearly, hkind⟩ | halike
  · exact .inl ⟨e, bind_of_error hearly, hkind⟩
  · generalize hs : call s = x at halike
    generalize ht : call t = y at halike
    cases halike with
    | returned h' =>
      rw [bind_of_ok hs, bind_of_ok ht]
      exact hnext _ missing failure _ _ h'
    | failed h' =>
      rw [bind_of_error hs, bind_of_error ht]
      exact .inr (.failed h')

theorem times {call : Action Input α} (h : NoticesCut call) (count : Nat) :
    NoticesCut (times call count) := by
  induction count with
  | zero => exact .pure []
  | succ count ih =>
    rw [times_succ]
    exact h.bind fun a => ih.bind fun as => .pure (a :: as)

end NoticesCut

/-! ## The readers -/

theorem noticesCut_readLine : NoticesCut readLine := by
  intro missing failure s t h
  unfold readLine
  rcases h.search Limits.maxLine [] with ⟨found, hfound⟩ | halike
  · refine .inl ?_
    rw [bind_of_ok (ofStream_eq_ok.mpr hfound)]
    -- Whether the line had begun matters for the words of the failure alone.
    rcases found with _ | ⟨b, _ | ⟨c, found⟩⟩
    · exact ⟨.closed, rfl, rfl⟩
    · exact ⟨.closedInLine, rfl, rfl⟩
    · exact ⟨.closedInLine, rfl, rfl⟩
  · refine .inr (halike.ofStream.bind fun found s' t' h' => ?_)
    cases finishLine found with
    | ok line => exact .returned h'
    | error e => exact .failed h'

namespace Frame

theorem noticesCut_readPayload (length : Nat) : NoticesCut (readPayload length) := by
  refine NoticesCut.bind ?_ fun bytes => .ofCheck _
  intro missing failure s t h
  rcases h.count (length + Bytes.crlf.length) [] with hshort | halike
  · exact .inl ⟨.shortPayload, ofStream_eq_error.mpr ⟨_, rfl, hshort⟩, rfl⟩
  · exact .inr halike.ofStream

theorem noticesCut_readBy {limits : Limits} {readItems : Nat → Action Input (List Frame)}
    (hitems : ∀ count, NoticesCut (readItems count)) : NoticesCut (readBy limits readItems) := by
  unfold readBy
  refine noticesCut_readLine.bind fun line => (NoticesCut.ofCheck _).bind fun header => ?_
  cases header with
  | complete frame => exact .pure frame
  | payload length => exact (noticesCut_readPayload length).bind fun payload => .pure (Frame.bulk payload)
  | items count => exact (hitems count).bind fun items => .pure (Frame.array items)

/-- **A reader of replies notices every cut.** -/
theorem noticesCut_read (limits : Limits) : NoticesCut (read limits) := by
  show NoticesCut (readWithin limits Limits.maxNesting)
  induction Limits.maxNesting with
  | zero => exact noticesCut_readBy fun _ => .throw (.protocol .nestedTooDeeply)
  | succ room ih => exact noticesCut_readBy fun count => ih.times count

/-- **A reply that is cut short ends early**, wherever the cut falls. If a reply is taken off some input to
its last byte, then a strict front of the reply, with nothing behind it, is refused as an early end of the
stream: it is no reply, and no fault of the protocol either. So no reply is a strict front of another. -/
theorem truncated_reply_ends_early {limits : Limits} {p q rest : Bytes} {failure : Option IoError}
    {f : Frame} (whole : read limits (⟨p ++ rest, failure⟩ : Input) = .ok f ⟨rest, failure⟩)
    (cut : q <+: p) (short : q ≠ p) :
    EndsEarly (read limits (⟨q, none⟩ : Input)) ∧
      ∀ (g : Frame) (rest' : Bytes) (failure' : Option IoError),
        read limits (⟨q ++ rest', failure'⟩ : Input) ≠ .ok g ⟨rest', failure'⟩ := by
  obtain ⟨missing, rfl⟩ := cut
  have hmissing : missing ≠ [] := fun h => short (by rw [h, List.append_nil])
  have hcut : CutBefore (missing ++ rest) failure ⟨q, none⟩ ⟨q ++ missing ++ rest, failure⟩ :=
    ⟨rfl, by rw [List.append_assoc]⟩
  have hearly : EndsEarly (read limits (⟨q, none⟩ : Input)) := by
    rcases noticesCut_read limits _ _ _ _ hcut with hearly | halike
    · exact hearly
    · -- Not to come to the cut is to leave the missing bytes unread.
      rw [whole] at halike
      generalize read limits (⟨q, none⟩ : Input) = outcome at halike
      cases halike with
      | returned hleft =>
        have hrest : rest = _ ++ (missing ++ rest) := congrArg Input.rest hleft.2
        have hlength := congrArg List.length hrest
        have hpos := List.length_pos_iff.mpr hmissing
        simp only [List.length_append] at hlength
        omega
  refine ⟨hearly, ?_⟩
  intro g rest' failure' hreply
  obtain ⟨e, he, _⟩ := hearly
  have hderives := (read_input_eq_ok_iff rest' failure').mp hreply
  have hagain := (read_input_eq_ok_iff [] none).mpr hderives
  rw [List.append_nil, he] at hagain
  cases hagain

/-- An array whose first item holds a line end and what could be another reply. -/
def nested : Reply :=
  ⟨Bytes.ofAscii "*2\r\n$6\r\n\r\n+x\r\n\r\n*1\r\n:7\r\n",
    .array [.bulk (Bytes.ofAscii "\r\n+x\r\n"), .array [.integer 7]]⟩

theorem nested_complete : Derives {} 0 nested.bytes nested.frame := by
  have hseven : Derives {} 2 (Bytes.ofAscii ":7\r\n") (.integer 7) :=
    @Derives.integer {} 2 (Bytes.ofAscii "7") _ (by decide)
  have hinner : Derives {} 1 (Bytes.ofAscii "*1\r\n:7\r\n") (.array [.integer 7]) :=
    @Derives.array {} 1 (Bytes.ofAscii "1") (Bytes.ofAscii "*1\r\n")
      [⟨Bytes.ofAscii ":7\r\n", .integer 7⟩] (by decide) (by decide) (by decide) (by decide)
      (by simpa using hseven)
  have hbulk : Derives {} 1 (Bytes.ofAscii "$6\r\n\r\n+x\r\n\r\n")
      (.bulk (Bytes.ofAscii "\r\n+x\r\n")) :=
    @Derives.bulk {} 1 (Bytes.ofAscii "6") (Bytes.ofAscii "$6\r\n") (Bytes.ofAscii "\r\n+x\r\n")
      (by decide) (by decide) (by decide)
  exact @Derives.array {} 0 (Bytes.ofAscii "2") (Bytes.ofAscii "*2\r\n")
    [⟨Bytes.ofAscii "$6\r\n\r\n+x\r\n\r\n", .bulk (Bytes.ofAscii "\r\n+x\r\n")⟩,
      ⟨Bytes.ofAscii "*1\r\n:7\r\n", .array [.integer 7]⟩] (by decide) (by decide) (by decide)
    (by decide) (by simp [hbulk, hinner])

/-- The cut falls behind a payload that ends like a line, before its own line end. -/
theorem truncated_reply_ends_early_nested :
    read {} (⟨nested.bytes ++ [], none⟩ : Input) = .ok nested.frame ⟨[], none⟩ ∧
      nested.bytes.take 14 <+: nested.bytes ∧ nested.bytes.take 14 ≠ nested.bytes ∧
      EndsEarly (read {} (⟨nested.bytes.take 14, none⟩ : Input)) ∧
      ∀ (g : Frame) (rest' : Bytes) (failure' : Option IoError),
        read {} (⟨nested.bytes.take 14 ++ rest', failure'⟩ : Input) ≠ .ok g ⟨rest', failure'⟩ := by
  have hwhole := (read_input_eq_ok_iff [] none).mpr nested_complete
  have hshort : nested.bytes.take 14 ≠ nested.bytes := by decide
  have hcut := nested.bytes.take_prefix 14
  exact ⟨hwhole, hcut, hshort, truncated_reply_ends_early hwhole hcut hshort⟩

end Frame

end StoreClient
