import StoreClient.Proofs.Reply.Reader

/-!
# `StoreClient/Proofs/Reply/Line.lean` — what becomes of any bytes that are read as a line

The reader of replies is characterized by what it accepts (`StoreClient/Proofs/Reply/Reader.lean`). A line is
read before anything else is known of a reply, so for a line the refusals matter as much: which they are, and
where they leave the stream. Both are settled by the **window**, the bytes that a line may take up at most:
whether there is a line feed in it, whether a carriage return stands before the first one, and, where there is
none, whether the window is full.

The bound counts the line feed. A line feed that is the last byte of the window ends a line, and a window that
is full with a carriage return at its end is too long, whatever comes next.
-/

set_option autoImplicit false

namespace StoreClient

open StoreClient.Action

/-! ## The ways in which a line is refused -/

section Refusing

variable {σ : Type} [ByteSource σ] {s t u : σ} {p : Bytes}

/-- A search that ended in what is no line. -/
theorem readLine_of_pullLine {found : Bytes} {stop : LineStop} {e : Error}
    (hpull : pullLine Limits.maxLine [] s = .ok (found, stop) t)
    (hfinish : finishLine (found, stop) = .error e) : readLine s = .error e t := by
  unfold readLine
  rw [bind_of_ok (ofStream_eq_ok.mpr hpull)]
  simp only [hfinish]
  rfl

theorem readLine_of_bare (clean : Bytes.lf ∉ p) (bounded : p.length < Limits.maxLine)
    (hdel : Delivers s (p ++ [Bytes.lf]) t) (bare : p.getLast? ≠ some Bytes.cr) :
    readLine s = .error (.protocol .bareLineFeed) t := by
  have hpull : pullLine Limits.maxLine [] s = .ok (Bytes.lf :: p.reverse ++ [], .lineFeed) t :=
    pullLine_eq_lineFeed.mpr ⟨p, clean, bounded, hdel, rfl⟩
  rw [List.append_nil] at hpull
  refine readLine_of_pullLine hpull ?_
  rw [← List.head?_reverse] at bare
  cases hfound : p.reverse with
  | nil => rfl
  | cons c found =>
    have hc : c ≠ Bytes.cr := fun hq => bare (by rw [hfound, hq, List.head?_cons])
    simp [finishLine, hc]

theorem readLine_of_full (clean : Bytes.lf ∉ p) (full : p.length = Limits.maxLine)
    (hdel : Delivers s p t) : readLine s = .error (.protocol .lineTooLong) t := by
  have hpull : pullLine Limits.maxLine [] s = .ok (p.reverse, .full) t := by
    rw [← full, ← Nat.add_zero p.length, pullLine_passes clean 0 [] hdel, List.append_nil]
    rfl
  refine readLine_of_pullLine hpull ?_
  rcases p.reverse with _ | ⟨b, _ | ⟨c, found⟩⟩ <;> rfl

/-- An end of the stream before any byte is told from one inside a line, but in words alone. -/
theorem readLine_of_endOfStream (clean : Bytes.lf ∉ p) (short : p.length < Limits.maxLine)
    (hdel : Delivers s p t) (hend : ByteSource.next t = .ok none u) :
    readLine s = .error (.io (if p = [] then .closed else .closedInLine)) u := by
  have hpull : pullLine Limits.maxLine [] s = .ok (p.reverse, .endOfStream) u := by
    obtain ⟨room, hroom⟩ := Nat.exists_eq_add_of_lt short
    rw [hroom, Nat.add_assoc, pullLine_passes clean (room + 1) [] hdel, List.append_nil, pullLine,
      bind_of_ok hend]
    rfl
  refine readLine_of_pullLine hpull ?_
  by_cases hp : p = []
  · subst hp
    rfl
  · rw [if_neg hp]
    obtain ⟨b, found, hfound⟩ := List.exists_cons_of_ne_nil (List.reverse_ne_nil_iff.mpr hp)
    rw [hfound]
    rcases found with _ | ⟨c, found⟩ <;> rfl

end Refusing

/-! ## Any bytes with the end of the stream behind them -/

/-- The bytes that a line may take up, its end included. -/
def lineWindow (bytes : Bytes) : Bytes :=
  bytes.take Limits.maxLine

/-- What reading a line comes to on bytes with the end of the stream behind them: a field for each thing that
the window can look like, with what is left of the bytes, and the lines that are returned. -/
structure LineSettled (bytes : Bytes) : Prop where
  /-- The first line feed of the window has a carriage return before it. -/
  ended : ∀ i, (lineWindow bytes).idxOf? Bytes.lf = some i → 1 ≤ i → bytes[i - 1]? = some Bytes.cr →
    readLine (⟨bytes, none⟩ : Input) = .ok (bytes.take (i - 1)) ⟨bytes.drop (i + 1), none⟩
  /-- It has none. -/
  bare : ∀ i, (lineWindow bytes).idxOf? Bytes.lf = some i → ¬ (1 ≤ i ∧ bytes[i - 1]? = some Bytes.cr) →
    readLine (⟨bytes, none⟩ : Input) = .error (.protocol .bareLineFeed) ⟨bytes.drop (i + 1), none⟩
  full : Bytes.lf ∉ lineWindow bytes → (lineWindow bytes).length = Limits.maxLine →
    readLine (⟨bytes, none⟩ : Input) =
      .error (.protocol .lineTooLong) ⟨bytes.drop (lineWindow bytes).length, none⟩
  cutShort : Bytes.lf ∉ lineWindow bytes → (lineWindow bytes).length < Limits.maxLine →
    ∃ e, readLine (⟨bytes, none⟩ : Input) = .error (.io e) ⟨bytes.drop (lineWindow bytes).length, none⟩ ∧
      e.kind = .unexpectedEof
  returned : ∀ line rest, readLine (⟨bytes, none⟩ : Input) = .ok line ⟨rest, none⟩ ↔
    bytes = line ++ Bytes.crlf ++ rest ∧ Bytes.lf ∉ line ∧ line.length ≤ Limits.maxLine - 2

variable {bytes : Bytes}

theorem length_lineWindow (bytes : Bytes) :
    (lineWindow bytes).length = min Limits.maxLine bytes.length := List.length_take

/-- The bytes up to the first line feed of the window, and those behind it. -/
theorem split_at_lineFeed {i : Nat} (h : (lineWindow bytes).idxOf? Bytes.lf = some i) :
    bytes = bytes.take i ++ [Bytes.lf] ++ bytes.drop (i + 1) ∧ Bytes.lf ∉ bytes.take i ∧
      (bytes.take i).length = i ∧ i < Limits.maxLine := by
  obtain ⟨hi, hlf, hfirst⟩ := List.idxOf?_eq_some_iff.mp h
  have hbound : i < Limits.maxLine ∧ i < bytes.length := by
    rw [length_lineWindow] at hi
    omega
  have hget : bytes[i]? = some Bytes.lf := by
    rw [← hlf, List.getElem?_eq_getElem hbound.2]
    simp [lineWindow]
  refine ⟨?_, ?_, List.length_take_of_le hbound.2.le, hbound.1⟩
  · have htake : bytes.take (i + 1) = bytes.take i ++ [Bytes.lf] := by
      rw [List.take_add_one, hget, Option.toList_some]
    rw [← htake, List.take_append_drop]
  · intro hmem
    obtain ⟨j, hj, hget⟩ := List.getElem_of_mem hmem
    rw [List.length_take] at hj
    refine hfirst j (by omega) ?_
    rw [← hget]
    simp [lineWindow]

theorem getLast?_take_iff {i : Nat} (h : (bytes.take i).length = i) :
    (bytes.take i).getLast? = some Bytes.cr ↔ 1 ≤ i ∧ bytes[i - 1]? = some Bytes.cr := by
  rw [List.getLast?_eq_getElem?, h]
  cases i with
  | zero => simp
  | succ i => simp

theorem readLine_input_eq_ok_iff {line rest : Bytes} :
    readLine (⟨bytes, none⟩ : Input) = .ok line ⟨rest, none⟩ ↔
      bytes = line ++ Bytes.crlf ++ rest ∧ Bytes.lf ∉ line ∧ line.length ≤ Limits.maxLine - 2 := by
  have hlength : (line ++ Bytes.crlf).length ≤ Limits.maxLine ↔ line.length ≤ Limits.maxLine - 2 := by
    simp only [List.length_append, Bytes.crlf, List.length_cons, List.length_nil, Limits.maxLine]
    omega
  rw [readLine_eq_ok_iff, Delivers.input_iff, hlength]
  simp

theorem lineWindow_of_short (h : (lineWindow bytes).length < Limits.maxLine) : lineWindow bytes = bytes := by
  rw [length_lineWindow] at h
  exact List.take_of_length_le (by omega)

/-- **Every input is settled by its window**, where a line ends, how it fails to end, and what is left of the
input in both cases. -/
theorem line_settled_by_window (bytes : Bytes) : LineSettled bytes where
  ended i h hpos hcr := by
    obtain ⟨hsplit, hclean, hlength, hbound⟩ := split_at_lineFeed h
    have hlast : bytes.take i = bytes.take (i - 1) ++ [Bytes.cr] := by
      have htake := List.take_add_one (l := bytes) (i := i - 1)
      rwa [Nat.sub_add_cancel hpos, hcr] at htake
    rw [readLine_input_eq_ok_iff]
    refine ⟨?_, ?_, ?_⟩
    · rw [hlast] at hsplit
      simpa [Bytes.crlf] using hsplit
    · exact fun hmem => hclean (List.take_subset_take_left _ (Nat.sub_le i 1) hmem)
    · rw [List.length_take]
      omega
  bare i h hbare := by
    obtain ⟨hsplit, hclean, hlength, hbound⟩ := split_at_lineFeed h
    exact readLine_of_bare hclean (hlength.trans_lt hbound) (Delivers.input_iff.mpr ⟨hsplit, rfl⟩)
      fun hlast => hbare ((getLast?_take_iff hlength).mp hlast)
  full hclean hfull := by
    refine readLine_of_full hclean hfull (Delivers.input_iff.mpr ⟨?_, rfl⟩)
    rw [hfull]
    exact (List.take_append_drop _ _).symm
  cutShort hclean hshort := by
    have hwhole := lineWindow_of_short hshort
    have hdel : Delivers (⟨bytes, none⟩ : Input) (lineWindow bytes) ⟨[], none⟩ := by
      rw [hwhole]
      exact Delivers.input_iff.mpr ⟨(List.append_nil _).symm, rfl⟩
    refine ⟨if lineWindow bytes = [] then .closed else .closedInLine, ?_, ?_⟩
    · rw [readLine_of_endOfStream hclean hshort hdel rfl, hwhole, List.drop_length]
    · by_cases hnil : lineWindow bytes = []
      · rw [if_pos hnil]
        rfl
      · rw [if_neg hnil]
        rfl
  returned _ _ := readLine_input_eq_ok_iff

end StoreClient
