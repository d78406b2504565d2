import Mathlib.Data.List.TakeWhile
import StoreClient.Proofs.Value.Dictionary
import StoreClient.Reply.Info

/-!
# `StoreClient/Proofs/Reply/Info.lean` — server information is read back

Server information has two separators that can stand in each other's way: lines end with LF, perhaps after a
CR, and in a line the first colon divides. A value may hold colons and may end with a CR of its own; a name
may be empty; the last line may have no end. What counts is stated for any bytes at all
(`getElem?_parse_iff`): **a name has the value of the first piece that gives it one**, where the pieces are
those between line feeds and `HasField` says what a piece gives.

A remote side writes lines, each a field or something without a colon. Written out and read back, the fields
are what they were, and all other lines are as if they were not there (`parse_inverts_render`).
-/

set_option autoImplicit false

namespace StoreClient

namespace Info

/-- The piece, less one carriage return at its end if it has one, is a name, a colon and a value, and no
colon stands before that. -/
def HasField (piece name value : Bytes) : Prop :=
  (piece = name ++ colon :: value ++ [Bytes.cr] ∨
      piece = name ++ colon :: value ∧ piece.getLast? ≠ some Bytes.cr) ∧ colon ∉ name

/-! ## Pieces and what they give -/

theorem split_eq_splitOn (text : Bytes) : split text = text.splitOn Bytes.lf := by
  induction text with
  | nil => rfl
  | cons b text ih =>
    rw [List.splitOn_eq_splitOnP, List.splitOnP_cons_eq_if_modifyHead, ← List.splitOn_eq_splitOnP, ← ih]
    show addByte b (split text) = _
    -- There is always a first piece for the byte to be put before.
    obtain ⟨piece, pieces, hsplit⟩ : ∃ piece pieces, split text = piece :: pieces := by
      rw [ih]
      exact List.exists_cons_of_ne_nil (List.splitOn_ne_nil _ _)
    simp [hsplit, addByte]

theorem split_line {line rest : Bytes} (h : Bytes.lf ∉ line) :
    split (line ++ Bytes.lf :: rest) = line :: split rest := by
  rw [split_eq_splitOn, split_eq_splitOn, List.splitOn_append_cons_self, List.splitOn_eq_singleton h]
  rfl

/-- The first colon divides. -/
theorem field?_eq_some_iff {line name value : Bytes} :
    field? line = some (name, value) ↔ line = name ++ colon :: value ∧ colon ∉ name := by
  refine ⟨?_, ?_⟩
  · intro h
    unfold field? at h
    have hline : line.takeWhile (· != colon) ++ line.dropWhile (· != colon) = line :=
      List.takeWhile_append_dropWhile
    cases hdrop : line.dropWhile (· != colon) with
    | nil => simp [hdrop] at h
    | cons c rest =>
      have hc : c = colon := by
        have hhead := List.head_dropWhile_not (· != colon) (l := line) (by simp [hdrop])
        simpa [hdrop] using hhead
      rw [hdrop, hc] at hline
      simp only [hdrop, Option.some.injEq, Prod.mk.injEq] at h
      obtain ⟨rfl, rfl⟩ := h
      refine ⟨hline.symm, ?_⟩
      intro hmem
      simpa using List.mem_takeWhile_imp hmem
  · intro h
    obtain ⟨rfl, hname⟩ := h
    have hbefore : ∀ b ∈ name, (b != colon) = true := by
      intro b hb
      simpa using fun h : b = colon => hname (h ▸ hb)
    simp [field?, List.dropWhile_append_of_pos hbefore, List.takeWhile_append_of_pos hbefore]

theorem stripCr_append_cr (line : Bytes) : stripCr (line ++ [Bytes.cr]) = line := by
  simp [stripCr]

theorem field?_stripCr_eq_some_iff {piece name value : Bytes} :
    field? (stripCr piece) = some (name, value) ↔ HasField piece name value := by
  unfold HasField
  by_cases hcr : piece.getLast? = some Bytes.cr
  · obtain ⟨line, rfl⟩ := List.getLast?_eq_some_iff.mp hcr
    rw [stripCr_append_cr, field?_eq_some_iff, List.append_left_inj]
    simp
  · have hnot : piece ≠ name ++ colon :: value ++ [Bytes.cr] := by
      rintro rfl
      exact hcr List.getLast?_concat
    rw [stripCr, if_neg hcr, field?_eq_some_iff, or_iff_right hnot, and_iff_left hcr]

/-! ## Any text -/

/-- **A name has the value of the first piece that gives it one.** -/
theorem getElem?_parse_iff {text name value : Bytes} :
    (parse text)[name]? = some value ↔
      ∃ before piece after, text.splitOn Bytes.lf = before ++ piece :: after ∧
        HasField piece name value ∧ ∀ other ∈ before, ∀ value', ¬ HasField other name value' := by
  unfold parse fields
  rw [Dictionary.getElem?_insertNew, split_eq_splitOn]
  simp only [Std.ExtTreeMap.getElem?_empty, Option.none_or]
  rw [Dictionary.lookup_filterMap_eq_some_iff]
  simp only [field?_stripCr_eq_some_iff, ne_eq]

/-! ## Lines that were written -/

/-- A line of server information, without its end. -/
inductive Line where
  | field (name value : Bytes)
  /-- A heading, or nothing at all. -/
  | other (text : Bytes)

namespace Line

def bytes : Line → Bytes
  | field name value => name ++ colon :: value
  | other text => text

/-- What the line says. -/
def content? : Line → Option (Bytes × Bytes)
  | field name value => some (name, value)
  | other _ => none

/-- Nothing on the line stands where it would be taken for something else. -/
def Clean : Line → Prop
  | field name value => colon ∉ name ∧ Bytes.lf ∉ name ∧ Bytes.lf ∉ value
  | other text => colon ∉ text ∧ Bytes.lf ∉ text

instance : DecidablePred Clean
  | field _ _ => inferInstanceAs (Decidable (_ ∧ _ ∧ _))
  | other _ => inferInstanceAs (Decidable (_ ∧ _))

theorem Clean.lf_not_mem {line : Line} (h : line.Clean) : Bytes.lf ∉ line.bytes ++ [Bytes.cr] := by
  have hcr : Bytes.lf ≠ Bytes.cr := by decide
  have hcolon : Bytes.lf ≠ colon := by decide
  cases line with
  | field name value => simp [bytes, h.2.1, h.2.2, hcr, hcolon]
  | other text => simp [bytes, h.2, hcr]

theorem Clean.field? {line : Line} (h : line.Clean) : Info.field? line.bytes = line.content? := by
  cases line with
  | field name value => exact field?_eq_some_iff.mpr ⟨rfl, h.1⟩
  | other text =>
    rw [content?, Option.eq_none_iff_forall_ne_some]
    rintro ⟨name, value⟩ hfield
    obtain ⟨htext, _⟩ := field?_eq_some_iff.mp hfield
    have hcolon : colon ∈ (other text).bytes := by simp [htext]
    exact h.1 hcolon

end Line

/-- Lines as they are written, each with its end. -/
def render (lines : List Line) : Bytes :=
  lines.flatMap fun line => line.bytes ++ Bytes.crlf

theorem fields_render {lines : List Line} (clean : ∀ line ∈ lines, line.Clean) :
    fields (render lines) = lines.filterMap Line.content? := by
  induction lines with
  | nil => rfl
  | cons line lines ih =>
    have hline : line.Clean := clean line List.mem_cons_self
    have hrest := ih fun line' hline' => clean line' (List.mem_cons_of_mem line hline')
    have hrender : render (line :: lines) = line.bytes ++ [Bytes.cr] ++ Bytes.lf :: render lines := by
      simp [render, Bytes.crlf]
    unfold fields at hrest ⊢
    rw [hrender, split_line hline.lf_not_mem, List.filterMap_cons, List.filterMap_cons, hrest,
      stripCr_append_cr, hline.field?]

theorem Line.content?_eq_some_iff {line : Line} {name value : Bytes} :
    line.content? = some (name, value) ↔ line = .field name value := by
  cases line <;> simp [content?]

theorem getElem?_parse_render_iff {lines : List Line} (clean : ∀ line ∈ lines, line.Clean)
    {name value : Bytes} :
    (parse (render lines))[name]? = some value ↔
      ∃ before after, lines = before ++ .field name value :: after ∧
        ∀ value', .field name value' ∉ before := by
  unfold parse
  rw [fields_render clean, Dictionary.getElem?_insertNew]
  simp only [Std.ExtTreeMap.getElem?_empty, Option.none_or]
  rw [Dictionary.lookup_filterMap_eq_some_iff]
  simp only [ne_eq, Line.content?_eq_some_iff]
  refine ⟨?_, ?_⟩
  · intro h
    obtain ⟨before, _, after, hlines, rfl, hfirst⟩ := h
    exact ⟨before, after, hlines, fun value' hmem => hfirst _ hmem value' rfl⟩
  · intro h
    obtain ⟨before, after, hlines, hfirst⟩ := h
    refine ⟨before, _, after, hlines, rfl, ?_⟩
    rintro _ hmem value' rfl
    exact hfirst value' hmem

/-- Lines that were written are read back: each name has the value of its first field, and there are no other
names. Only the fields matter, so any other lines may be put in or left out. -/
structure ReadBack (lines : List Line) : Prop where
  first : ∀ name value, (parse (render lines))[name]? = some value ↔
    ∃ before after, lines = before ++ .field name value :: after ∧
      ∀ value', .field name value' ∉ before
  fieldsOnly : ∀ lines', (∀ line ∈ lines', line.Clean) →
    lines'.filterMap Line.content? = lines.filterMap Line.content? →
      parse (render lines') = parse (render lines)

/-- **Reading server information inverts its format, and the first value of a name wins**: for lines that
were written, and for any text at all by its pieces. -/
theorem parse_inverts_render {lines : List Line} (clean : ∀ line ∈ lines, line.Clean) :
    ReadBack lines ∧ ∀ text name value, (parse text)[name]? = some value ↔
      ∃ before piece after, text.splitOn Bytes.lf = before ++ piece :: after ∧
        HasField piece name value ∧ ∀ other ∈ before, ∀ value', ¬ HasField other name value' := by
  refine ⟨⟨fun name value => getElem?_parse_render_iff clean, ?_⟩,
    fun text name value => getElem?_parse_iff⟩
  intro lines' clean' hsame
  unfold parse
  rw [fields_render clean, fields_render clean', hsame]

/-- A heading, a value with a colon and a CR at its end, an empty name, and a name that comes again. -/
def report : List Line :=
  [.other (Bytes.ofAscii "# Server"), .field (Bytes.ofAscii "host") (Bytes.ofAscii "::1\r"),
    .field [] (Bytes.ofAscii "x"), .other [], .field (Bytes.ofAscii "host") (Bytes.ofAscii "b")]

theorem parse_inverts_render_report :
    (∀ line ∈ report, line.Clean) ∧ ReadBack report ∧
      (parse (render report))[Bytes.ofAscii "host"]? = some (Bytes.ofAscii "::1\r") := by
  have clean : ∀ line ∈ report, line.Clean := by decide
  have hback := (parse_inverts_render clean).1
  refine ⟨clean, hback, (hback.first _ _).mpr ⟨[.other (Bytes.ofAscii "# Server")], _, rfl, ?_⟩⟩
  simp

end Info

end StoreClient
