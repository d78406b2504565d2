import StoreClient.Proofs.Reply.Grammar
import StoreClient.Proofs.Source
import StoreClient.Reply.Reader

/-!
# `StoreClient/Proofs/Reply/Reader.lean` — the reader accepts the grammar

`Frame.read` and the grammar of replies (`StoreClient/Proofs/Reply/Grammar.lean`) are two accounts of the same language, and
this file proves that they agree, in both directions and to the byte: **the reader returns a frame and
has taken the bytes `p` exactly if `p` derives the frame** (`read_eq_ok_iff`). Nothing is said about what
follows `p`, since the reader never looks at it.

The proof follows the reader. A line, a payload and a row of items are each characterized by what was
delivered; `readBy` puts a first line and its promise together; and the induction is on the room that is
left for nesting, which the grammar counts from the other end.

What the reader refuses it refuses as an error of the stream or a fault of the protocol, and with
nothing else (`read_failsOnlyWith`), so every refusal is fatal to the connection.
-/

set_option autoImplicit false

namespace StoreClient

open StoreClient.Action

section Reading

variable {σ : Type} [ByteSource σ] {s t : σ}

/-! ## Lines and payloads -/

theorem finishLine_lineFeed_iff {found line : Bytes} :
    finishLine (Bytes.lf :: found, .lineFeed) = .ok line ↔ found = Bytes.cr :: line.reverse := by
  cases found with
  | nil => simp [finishLine]
  | cons c found =>
    simp only [finishLine, true_and]
    by_cases hc : c = Bytes.cr
    · rw [if_pos hc, hc]
      refine ⟨?_, ?_⟩
      · intro h
        cases h
        simp
      · intro h
        simp [(List.cons.inj h).2]
    · rw [if_neg hc]
      refine ⟨?_, ?_⟩
      · intro h
        cases h
      · intro h
        exact absurd (List.cons.inj h).1 hc

/-- Only a line feed makes a line. -/
theorem stop_of_finishLine {found line : Bytes} {stop : LineStop}
    (h : finishLine (found, stop) = .ok line) : stop = .lineFeed := by
  cases stop with
  | lineFeed => rfl
  | full => rcases found with _ | ⟨b, _ | ⟨c, found⟩⟩ <;> simp [finishLine] at h
  | endOfStream => rcases found with _ | ⟨b, _ | ⟨c, found⟩⟩ <;> simp [finishLine] at h

theorem readLine_eq_ok_iff {line : Bytes} :
    readLine s = .ok line t ↔
      Delivers s (line ++ Bytes.crlf) t ∧ Bytes.lf ∉ line ∧
        (line ++ Bytes.crlf).length ≤ Limits.maxLine := by
  unfold readLine
  rw [bind_eq_ok]
  refine ⟨?_, ?_⟩
  · intro h
    obtain ⟨⟨found, stop⟩, u, hpull, hfinish⟩ := h
    rw [ofStream_eq_ok] at hpull
    cases hf : finishLine (found, stop) with
    | error e =>
      simp only [hf] at hfinish
      cases hfinish
    | ok line' =>
      simp only [hf] at hfinish
      cases hfinish
      -- The search ended at a line feed, and the byte before it is the other half of the end.
      rw [stop_of_finishLine hf] at hpull hf
      obtain ⟨p, hlf, hlen, hdel, rfl⟩ := pullLine_eq_lineFeed.mp hpull
      rw [List.append_nil, finishLine_lineFeed_iff] at hf
      have hp : p = line ++ [Bytes.cr] := by simpa using congrArg List.reverse hf
      subst hp
      refine ⟨?_, fun hmem => hlf (List.mem_append_left _ hmem), ?_⟩
      · simpa [Bytes.crlf] using hdel
      · simp only [List.length_append, Bytes.crlf, List.length_cons, List.length_nil] at hlen ⊢
        omega
  · intro h
    obtain ⟨hdel, hlf, hlen⟩ := h
    -- The search does not stop before the end of the line.
    have hcr : Bytes.lf ∉ line ++ [Bytes.cr] := by
      intro hmem
      rcases List.mem_append.mp hmem with hmem | hmem
      · exact hlf hmem
      · exact absurd (List.mem_singleton.mp hmem) (by decide)
    have hpull : pullLine Limits.maxLine [] s =
        .ok (Bytes.lf :: (line ++ [Bytes.cr]).reverse ++ [], .lineFeed) t := by
      refine pullLine_eq_lineFeed.mpr ⟨line ++ [Bytes.cr], hcr, ?_, ?_, rfl⟩
      · simp only [List.length_append, Bytes.crlf, List.length_cons, List.length_nil] at hlen ⊢
        omega
      · simpa [Bytes.crlf] using hdel
    refine ⟨_, t, ofStream_eq_ok.mpr hpull, ?_⟩
    have hfinish : finishLine (Bytes.lf :: (line ++ [Bytes.cr]).reverse ++ [], .lineFeed) =
        .ok line := by
      rw [List.append_nil, finishLine_lineFeed_iff]
      simp
    simp only [hfinish]
    rfl

namespace Frame

theorem finishPayload_eq_ok_iff {found payload : Bytes} :
    finishPayload found = .ok payload ↔ found = (payload ++ Bytes.crlf).reverse := by
  rcases found with _ | ⟨b, _ | ⟨c, found⟩⟩
  · simp [finishPayload, Bytes.crlf]
  · simp [finishPayload, Bytes.crlf]
  · simp only [finishPayload]
    by_cases hend : b = Bytes.lf ∧ c = Bytes.cr
    · rw [if_pos hend, hend.1, hend.2]
      refine ⟨?_, ?_⟩
      · intro h
        cases h
        simp [Bytes.crlf]
      · intro h
        have hfound : found = payload.reverse := by simpa [Bytes.crlf] using h
        simp [hfound]
    · rw [if_neg hend]
      refine ⟨?_, ?_⟩
      · intro h
        cases h
      · intro h
        refine absurd ?_ hend
        have h' : b = Bytes.lf ∧ c = Bytes.cr ∧ found = payload.reverse := by
          simpa [Bytes.crlf] using h
        exact ⟨h'.1, h'.2.1⟩

theorem readPayload_eq_ok_iff {n : Nat} {payload : Bytes} :
    readPayload n s = .ok payload t ↔
      payload.length = n ∧ Delivers s (payload ++ Bytes.crlf) t := by
  unfold readPayload
  rw [bind_eq_ok]
  refine ⟨?_, ?_⟩
  · intro h
    obtain ⟨found, u, hpull, hcheck⟩ := h
    obtain ⟨p, hlen, hdel, rfl⟩ := pullExactly_eq_ok.mp (ofStream_eq_ok.mp hpull)
    obtain ⟨hfinish, rfl⟩ := ofCheck_eq_ok.mp hcheck
    rw [List.append_nil, finishPayload_eq_ok_iff, List.reverse_inj] at hfinish
    subst hfinish
    rw [List.length_append] at hlen
    exact ⟨Nat.add_right_cancel hlen, hdel⟩
  · intro h
    obtain ⟨rfl, hdel⟩ := h
    refine ⟨_, t, ofStream_eq_ok.mpr (pullExactly_eq_ok.mpr
      ⟨payload ++ Bytes.crlf, List.length_append, hdel, rfl⟩), ?_⟩
    refine ofCheck_eq_ok.mpr ⟨?_, rfl⟩
    rw [List.append_nil, finishPayload_eq_ok_iff]

end Frame

/-! ## Rows of replies -/

/-- A reader that takes exactly what some relation allows, made several times over, takes exactly a row
of it. -/
theorem times_eq_ok_iff {read : Action σ Frame} {R : Bytes → Frame → Prop}
    (hread : ∀ s t f, read s = .ok f t ↔ ∃ p, Delivers s p t ∧ R p f) {count : Nat}
    {frames : List Frame} :
    times read count s = .ok frames t ↔
      ∃ row : List Reply, row.length = count ∧ row.map Reply.frame = frames ∧
        Delivers s (row.flatMap Reply.bytes) t ∧ ∀ r ∈ row, R r.bytes r.frame := by
  induction count generalizing s frames with
  | zero =>
    rw [times_zero]
    refine ⟨?_, ?_⟩
    · intro h
      cases h
      exact ⟨[], rfl, rfl, .nothing _, by simp⟩
    · intro h
      obtain ⟨row, hlen, rfl, hdel, -⟩ := h
      rw [List.length_eq_zero_iff] at hlen
      subst hlen
      rw [Delivers.nil_iff.mp hdel]
      rfl
  | succ count ih =>
    rw [times_succ_eq_ok]
    refine ⟨?_, ?_⟩
    · intro h
      obtain ⟨f, u, rest, hfirst, hrest, rfl⟩ := h
      obtain ⟨p, hp, hR⟩ := (hread s u f).mp hfirst
      obtain ⟨row, hlen, rfl, hdel, heach⟩ := ih.mp hrest
      refine ⟨⟨p, f⟩ :: row, by simp [hlen], rfl, hp.trans hdel, ?_⟩
      intro r hr
      rcases List.mem_cons.mp hr with rfl | hr
      · exact hR
      · exact heach r hr
    · intro h
      obtain ⟨row, hlen, rfl, hdel, heach⟩ := h
      cases row with
      | nil => simp at hlen
      | cons r row =>
        obtain ⟨u, hfirst, hrest⟩ := Delivers.append_iff.mp hdel
        refine ⟨r.frame, u, row.map Reply.frame, ?_, ?_, rfl⟩
        · exact (hread s u r.frame).mpr ⟨r.bytes, hfirst, heach r List.mem_cons_self⟩
        · exact ih.mpr ⟨row, by simpa using hlen, rfl, hrest,
            fun q hq => heach q (List.mem_cons_of_mem r hq)⟩

/-! ## A first line and what it promises -/

namespace Frame

theorem isLine_iff {sigil : Header.Sigil} {text line : Bytes} :
    IsLine sigil text line ↔
      line = sigil.byte :: text ++ Bytes.crlf ∧ Bytes.lf ∉ sigil.byte :: text ∧
        (sigil.byte :: text ++ Bytes.crlf).length ≤ Limits.maxLine := by
  refine ⟨?_, ?_⟩
  · intro h
    obtain ⟨rfl, hclean, hbounded⟩ := h
    refine ⟨rfl, ?_, hbounded⟩
    simp only [List.mem_cons, not_or]
    exact ⟨fun hq => sigil.byte_ne_lf hq.symm, hclean⟩
  · intro h
    obtain ⟨rfl, hclean, hbounded⟩ := h
    exact ⟨rfl, fun hmem => hclean (List.mem_cons_of_mem _ hmem), hbounded⟩

/-- A line with a sigil, as the reader takes it. -/
theorem readLine_sigil_iff {sigil : Header.Sigil} {text : Bytes} :
    readLine s = .ok (sigil.byte :: text) t ↔ ∃ line, IsLine sigil text line ∧ Delivers s line t := by
  rw [readLine_eq_ok_iff]
  refine ⟨?_, ?_⟩
  · intro h
    obtain ⟨hdel, hclean, hbounded⟩ := h
    exact ⟨_, isLine_iff.mpr ⟨rfl, hclean, hbounded⟩, hdel⟩
  · intro h
    obtain ⟨line, hline, hdel⟩ := h
    obtain ⟨rfl, hclean, hbounded⟩ := isLine_iff.mp hline
    exact ⟨hdel, hclean, hbounded⟩

/-- Reading by a first line is reading that line and then what its header promises. -/
theorem readBy_eq_ok_iff {limits : Limits} {readItems : Nat → Action σ (List Frame)} {f : Frame} :
    readBy limits readItems s = .ok f t ↔
      ∃ sigil text u header, readLine s = .ok (Header.Sigil.byte sigil :: text) u ∧
        Header.ofLine limits (sigil.byte :: text) = .ok header ∧
        ((header = .complete f ∧ t = u) ∨
          (∃ n payload, header = .payload n ∧ readPayload n u = .ok payload t ∧ f = .bulk payload) ∨
          ∃ n items, header = .items n ∧ readItems n u = .ok items t ∧ f = .array items) := by
  unfold readBy
  rw [bind_eq_ok]
  refine ⟨?_, ?_⟩
  · intro h
    obtain ⟨line, u, hline, h⟩ := h
    obtain ⟨header, v, hcheck, h⟩ := bind_eq_ok.mp h
    obtain ⟨hheader, rfl⟩ := ofCheck_eq_ok.mp hcheck
    -- There is a header, so the line starts with a sigil.
    have hsigil : ∃ sigil text, line = Header.Sigil.byte sigil :: text := by
      cases line with
      | nil => cases hheader
      | cons b text =>
        cases hb : Header.Sigil.ofByte? b with
        | none => simp [Header.ofLine, hb] at hheader
        | some sigil => exact ⟨sigil, text, by rw [Header.Sigil.ofByte?_eq_some_iff.mp hb]⟩
    obtain ⟨sigil, text, rfl⟩ := hsigil
    refine ⟨sigil, text, v, header, hline, hheader, ?_⟩
    cases header with
    | complete frame =>
      cases h
      exact Or.inl ⟨rfl, rfl⟩
    | payload n =>
      obtain ⟨payload, w, hread, hpure⟩ := bind_eq_ok.mp h
      cases hpure
      exact Or.inr (Or.inl ⟨n, payload, rfl, hread, rfl⟩)
    | items n =>
      obtain ⟨items, w, hread, hpure⟩ := bind_eq_ok.mp h
      cases hpure
      exact Or.inr (Or.inr ⟨n, items, rfl, hread, rfl⟩)
  · intro h
    obtain ⟨sigil, text, u, header, hline, hheader, h⟩ := h
    refine ⟨_, u, hline, bind_eq_ok.mpr ⟨header, u, ofCheck_eq_ok.mpr ⟨hheader, rfl⟩, ?_⟩⟩
    rcases h with ⟨rfl, rfl⟩ | ⟨n, payload, rfl, hread, rfl⟩ | ⟨n, items, rfl, hread, rfl⟩
    · rfl
    · exact bind_eq_ok.mpr ⟨payload, t, hread, rfl⟩
    · exact bind_eq_ok.mpr ⟨items, t, hread, rfl⟩

theorem ofLine_sigil (limits : Limits) (sigil : Header.Sigil) (text : Bytes) :
    Header.ofLine limits (sigil.byte :: text) =
      match sigil with
      | .status => .ok (.complete (.status text))
      | .error => .ok (.complete (.error text))
      | .integer => .ok (.complete (.integer (Decimal.readLenient text)))
      | .bulk => Header.ofLength limits text
      | .array => Header.ofCount limits text := by
  cases sigil <;> rfl

/-! ## The reader and the grammar -/

variable {limits : Limits} {d : Nat} {readItems : Nat → Action σ (List Frame)}

/-- What the items of an array have to be, where `d` arrays are open around it. -/
def ReadsItems (limits : Limits) (d : Nat) (readItems : Nat → Action σ (List Frame)) : Prop :=
  ∀ n s t frames, readItems n s = .ok frames t ↔
    d < Limits.maxNesting ∧ ∃ row : List Reply, row.length = n ∧ row.map Reply.frame = frames ∧
      Delivers s (row.flatMap Reply.bytes) t ∧ ∀ r ∈ row, Derives limits (d + 1) r.bytes r.frame

theorem derives_of_readBy (hitems : ReadsItems limits d readItems) {f : Frame}
    (h : readBy limits readItems s = .ok f t) : ∃ p, Delivers s p t ∧ Derives limits d p f := by
  obtain ⟨sigil, text, u, header, hline, hheader, h⟩ := readBy_eq_ok_iff.mp h
  obtain ⟨line, hfirst, hdel⟩ := readLine_sigil_iff.mp hline
  rw [ofLine_sigil] at hheader
  cases sigil with
  | status =>
    cases hheader
    rcases h with ⟨hq, rfl⟩ | ⟨_, _, hq, _⟩ | ⟨_, _, hq, _⟩ <;> cases hq
    exact ⟨line, hdel, .status hfirst⟩
  | error =>
    cases hheader
    rcases h with ⟨hq, rfl⟩ | ⟨_, _, hq, _⟩ | ⟨_, _, hq, _⟩ <;> cases hq
    exact ⟨line, hdel, .error hfirst⟩
  | integer =>
    cases hheader
    rcases h with ⟨hq, rfl⟩ | ⟨_, _, hq, _⟩ | ⟨_, _, hq, _⟩ <;> cases hq
    exact ⟨line, hdel, .integer hfirst⟩
  | bulk =>
    rcases Header.ofLength_eq_ok_iff.mp hheader with ⟨hnull, rfl⟩ | ⟨n, hn, hbound, rfl⟩
    · rcases h with ⟨hq, rfl⟩ | ⟨_, _, hq, _⟩ | ⟨_, _, hq, _⟩ <;> cases hq
      exact ⟨line, hdel, .nullBulk hfirst hnull⟩
    · rcases h with ⟨hq, _⟩ | ⟨m, payload, hq, hread, rfl⟩ | ⟨_, _, hq, _⟩ <;> cases hq
      obtain ⟨hlen, hrest⟩ := readPayload_eq_ok_iff.mp hread
      subst hlen
      refine ⟨line ++ payload ++ Bytes.crlf, ?_, .bulk hfirst hn hbound⟩
      rw [List.append_assoc]
      exact hdel.trans hrest
  | array =>
    rcases Header.ofCount_eq_ok_iff.mp hheader with ⟨v, hv, hneg, rfl⟩ | ⟨n, hn, hbound, rfl⟩
    · rcases h with ⟨hq, rfl⟩ | ⟨_, _, hq, _⟩ | ⟨_, _, hq, _⟩ <;> cases hq
      exact ⟨line, hdel, .nullArray hfirst hv hneg⟩
    · rcases h with ⟨hq, _⟩ | ⟨_, _, hq, _⟩ | ⟨m, frames, hq, hread, rfl⟩ <;> cases hq
      obtain ⟨hshallow, row, hlen, rfl, hrest, heach⟩ := (hitems n u t frames).mp hread
      subst hlen
      exact ⟨line ++ row.flatMap Reply.bytes, hdel.trans hrest,
        .array hfirst hn hbound hshallow heach⟩

theorem readBy_of_derives (hitems : ReadsItems limits d readItems) {f : Frame} {p : Bytes}
    (hdel : Delivers s p t) (h : Derives limits d p f) : readBy limits readItems s = .ok f t := by
  rw [readBy_eq_ok_iff]
  cases h with
  | status first =>
    exact ⟨.status, _, t, _, readLine_sigil_iff.mpr ⟨p, first, hdel⟩, rfl, Or.inl ⟨rfl, rfl⟩⟩
  | error first =>
    exact ⟨.error, _, t, _, readLine_sigil_iff.mpr ⟨p, first, hdel⟩, rfl, Or.inl ⟨rfl, rfl⟩⟩
  | integer first =>
    exact ⟨.integer, _, t, _, readLine_sigil_iff.mpr ⟨p, first, hdel⟩, rfl, Or.inl ⟨rfl, rfl⟩⟩
  | nullBulk first length =>
    refine ⟨.bulk, _, t, _, readLine_sigil_iff.mpr ⟨p, first, hdel⟩, ?_, Or.inl ⟨rfl, rfl⟩⟩
    exact Header.ofLength_eq_ok_iff.mpr (Or.inl ⟨length, rfl⟩)
  | nullArray first denotes negative =>
    refine ⟨.array, _, t, _, readLine_sigil_iff.mpr ⟨p, first, hdel⟩, ?_, Or.inl ⟨rfl, rfl⟩⟩
    exact Header.ofCount_eq_ok_iff.mpr (Or.inl ⟨_, denotes, negative, rfl⟩)
  | bulk first length bounded =>
    rename_i text line payload
    rw [List.append_assoc] at hdel
    obtain ⟨u, hline, hrest⟩ := Delivers.append_iff.mp hdel
    refine ⟨.bulk, text, u, .payload payload.length, readLine_sigil_iff.mpr ⟨line, first, hline⟩, ?_,
      Or.inr (Or.inl ⟨_, payload, rfl, readPayload_eq_ok_iff.mpr ⟨rfl, hrest⟩, rfl⟩)⟩
    exact Header.ofLength_eq_ok_iff.mpr (Or.inr ⟨_, length, bounded, rfl⟩)
  | array first count bounded shallow each =>
    rename_i text line items
    obtain ⟨u, hline, hrest⟩ := Delivers.append_iff.mp hdel
    refine ⟨.array, text, u, .items items.length, readLine_sigil_iff.mpr ⟨line, first, hline⟩, ?_,
      Or.inr (Or.inr ⟨_, items.map Reply.frame, rfl, ?_, rfl⟩)⟩
    · exact Header.ofCount_eq_ok_iff.mpr (Or.inr ⟨_, count, bounded, rfl⟩)
    · exact (hitems _ u t _).mpr ⟨shallow, items, rfl, rfl, hrest, each⟩

theorem readBy_iff_derives (hitems : ReadsItems limits d readItems) {f : Frame} :
    readBy limits readItems s = .ok f t ↔ ∃ p, Delivers s p t ∧ Derives limits d p f := by
  refine ⟨derives_of_readBy hitems, ?_⟩
  intro h
  obtain ⟨p, hdel, hp⟩ := h
  exact readBy_of_derives hitems hdel hp

/-- The room that is left and the depth that is reached count the same bound from its two ends. -/
theorem readWithin_eq_ok_iff (limits : Limits) {room d : Nat} (h : d + room = Limits.maxNesting)
    {s t : σ} {f : Frame} :
    readWithin limits room s = .ok f t ↔ ∃ p, Delivers s p t ∧ Derives limits d p f := by
  induction room generalizing d s t f with
  | zero =>
    -- No room is left: an array is refused here, and the grammar has none at this depth.
    have hitems : ReadsItems limits d
        fun _ => (throw (.protocol .nestedTooDeeply) : Action σ (List Frame)) := by
      intro n s t frames
      refine ⟨?_, ?_⟩
      · intro hq
        cases hq
      · intro hq
        have := hq.1
        omega
    exact readBy_iff_derives hitems
  | succ room ih =>
    -- The items have one room less and are one array deeper.
    have hitems : ReadsItems limits d
        fun count => times (readWithin limits room : Action σ Frame) count := by
      intro n s t frames
      rw [times_eq_ok_iff fun s t f => ih (show d + 1 + room = _ by omega)]
      refine ⟨?_, ?_⟩
      · intro hrow
        exact ⟨by omega, hrow⟩
      · intro hrow
        exact hrow.2
    exact readBy_iff_derives hitems

/-- **The reader takes exactly the replies**, over any source. -/
theorem read_eq_ok_iff {limits : Limits} {s t : σ} {f : Frame} :
    read limits s = .ok f t ↔ ∃ p, Delivers s p t ∧ Derives limits 0 p f :=
  readWithin_eq_ok_iff limits (Nat.zero_add _)

/-! ## Refusals -/

/-- An error that says that the bytes were no reply: they ended or the stream failed, or they break the
protocol. -/
def Refusal (e : Error) : Prop :=
  (∃ failure, e = .io failure) ∨ ∃ fault, e = .protocol fault

theorem Refusal.isFatal {e : Error} (h : Refusal e) : e.isFatal = true := by
  rcases h with ⟨failure, rfl⟩ | ⟨fault, rfl⟩ <;> rfl

theorem finishLine_refusal {found : Bytes} {stop : LineStop} {e : Error}
    (h : finishLine (found, stop) = .error e) : Refusal e := by
  unfold finishLine at h
  split at h
  · split at h
    · cases h
    · cases h
      exact Or.inr ⟨_, rfl⟩
  · cases h
    exact Or.inr ⟨_, rfl⟩
  · cases h
    exact Or.inr ⟨_, rfl⟩
  · cases h
    exact Or.inl ⟨_, rfl⟩
  · cases h
    exact Or.inl ⟨_, rfl⟩

theorem readLine_failsOnlyWith : FailsOnlyWith Refusal (readLine : Action σ Bytes) := by
  unfold readLine
  refine (FailsOnlyWith.ofStream fun failure => Or.inl ⟨failure, rfl⟩).bind fun found => ?_
  cases hf : finishLine found with
  | ok line => exact .pure line
  | error e => exact .throw (finishLine_refusal hf)

theorem readPayload_failsOnlyWith (n : Nat) :
    FailsOnlyWith Refusal (readPayload n : Action σ Bytes) :=
  (FailsOnlyWith.ofStream fun failure => Or.inl ⟨failure, rfl⟩).bind fun _ =>
    .ofCheck fun fault => Or.inr ⟨fault, rfl⟩

theorem readBy_failsOnlyWith (hitems : ∀ n, FailsOnlyWith Refusal (readItems n)) :
    FailsOnlyWith Refusal (readBy limits readItems) := by
  unfold readBy
  refine readLine_failsOnlyWith.bind fun line => ?_
  refine (FailsOnlyWith.ofCheck fun fault => Or.inr ⟨fault, rfl⟩).bind fun header => ?_
  cases header with
  | complete frame => exact .pure frame
  | payload n => exact (readPayload_failsOnlyWith n).bind fun payload => .pure (Frame.bulk payload)
  | items n => exact (hitems n).bind fun items => .pure (Frame.array items)

theorem read_failsOnlyWith (limits : Limits) :
    FailsOnlyWith Refusal (read limits : Action σ Frame) := by
  show FailsOnlyWith Refusal (readWithin limits Limits.maxNesting)
  induction Limits.maxNesting with
  | zero => exact readBy_failsOnlyWith fun _ => .throw (Or.inr ⟨_, rfl⟩)
  | succ room ih => exact readBy_failsOnlyWith fun n => ih.times n

end Frame

end Reading

/-! ## Over bytes that are all there -/

namespace Frame

/-- What was taken is what is missing from the rest, whatever the rest is and whatever comes behind
it. -/
theorem read_input_eq_ok_iff {limits : Limits} {f : Frame} {p : Bytes} (rest : Bytes)
    (failure : Option IoError) :
    read limits (⟨p ++ rest, failure⟩ : Input) = .ok f ⟨rest, failure⟩ ↔ Derives limits 0 p f := by
  rw [read_eq_ok_iff]
  refine ⟨?_, ?_⟩
  · intro h
    obtain ⟨q, hdel, hq⟩ := h
    have hpq : p = q := List.append_cancel_right (Delivers.input_iff.mp hdel).1
    exact hpq ▸ hq
  · intro h
    exact ⟨p, Delivers.input_iff.mpr ⟨rfl, rfl⟩, h⟩

/-- **The reader accepts exactly the grammar and stops exactly at the end of the reply.** In front of
anything whatever — more bytes, the end of the stream or a failure of it — it returns the frame and
leaves the rest untouched if and only if what it took derives the frame. And every input either starts
with a reply, which is then read, or is refused. -/
theorem read_sound_complete (limits : Limits) :
    (∀ (f : Frame) (p rest : Bytes) (failure : Option IoError),
      read limits (⟨p ++ rest, failure⟩ : Input) = .ok f ⟨rest, failure⟩ ↔ Derives limits 0 p f) ∧
    ∀ input : Input,
      (∃ f p rest, input.rest = p ++ rest ∧ Derives limits 0 p f ∧
        read limits input = .ok f ⟨rest, input.failure⟩) ∨
      ((¬ ∃ f p rest, input.rest = p ++ rest ∧ Derives limits 0 p f) ∧
        ∃ e after, read limits input = .error e after ∧
          ((∃ failure, e = .io failure) ∨ ∃ fault, e = .protocol fault)) := by
  refine ⟨fun f p rest failure => read_input_eq_ok_iff rest failure, ?_⟩
  intro input
  obtain ⟨bytes, failure⟩ := input
  cases hread : read limits (⟨bytes, failure⟩ : Input) with
  | ok f after =>
    obtain ⟨p, hdel, hp⟩ := read_eq_ok_iff.mp hread
    obtain ⟨hbytes, hfailure⟩ := Delivers.input_iff.mp hdel
    exact Or.inl ⟨f, p, after.rest, hbytes, hp, by rw [← hfailure]⟩
  | error e after =>
    refine Or.inr ⟨?_, e, after, rfl, read_failsOnlyWith limits _ e after hread⟩
    intro h
    obtain ⟨f, p, rest, hbytes, hp⟩ := h
    rw [show bytes = p ++ rest from hbytes, (read_input_eq_ok_iff rest failure).mpr hp] at hread
    cases hread

end Frame

end StoreClient
