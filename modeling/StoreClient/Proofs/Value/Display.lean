import StoreClient.Proofs.Text.Quoted
import StoreClient.Proofs.Text.Utf8
import StoreClient.Proofs.Value.Dictionary
import StoreClient.Value.Access
import StoreClient.Value.Display

/-!
# `StoreClient/Proofs/Value/Display.lean` — the lines in which a collection is shown

A collection is shown line by line, and what stands in the lines comes from the remote side. Whether a reader
can tell the elements apart is a matter of the line feeds in it: `linesOf` parts the text at each of them,
without knowing how it was put together.

**An array has one line for each item**, whatever the items are, since a payload is escaped before it is shown,
and so has a hash as far as its values go. Its keys are shown as they are. So the true count for a hash is one
line for each entry **and one for each line feed in a key**, and a key with a line feed in it looks like two
entries. The entries come by increasing keys all the same.

Where there is one line for each element, the lines say what the elements are (`lines_eq_iff`): two collections
that are shown alike have the same texts in them.
-/

set_option autoImplicit false

namespace StoreClient

namespace Value

/-! ## Lines -/

/-- The parts of a text between line feeds. -/
def linesOf (text : List Char) : List (List Char) :=
  text.splitOn '\n'

variable {text : List Char} {texts : List (List Char)}

theorem length_linesOf (text : List Char) : (linesOf text).length = text.count '\n' + 1 := by
  simp only [linesOf, List.splitOn_eq_splitOnP]
  induction text with
  | nil => rfl
  | cons c text ih =>
    rw [List.splitOnP_cons_eq_if_modifyHead, List.count_cons]
    split
    · simp [ih]
    · simp [ih]

theorem linesOf_joinLines (h : texts ≠ []) : linesOf (joinLines texts) = texts.flatMap linesOf := by
  induction texts with
  | nil => exact absurd rfl h
  | cons text texts ih =>
    cases texts with
    | nil => simp [joinLines]
    | cons next rest =>
      have hsplit : linesOf (text ++ '\n' :: joinLines (next :: rest)) =
          linesOf text ++ linesOf (joinLines (next :: rest)) := by
        simp only [linesOf, List.splitOn_eq_splitOnP]
        exact List.splitOnP_append_cons _ _ (by simp)
      rw [List.flatMap_cons, ← ih (List.cons_ne_nil _ _), ← hsplit]
      simp [joinLines, List.intercalate_cons_cons]

theorem linesOf_joinLines_of_clean (h : texts ≠ []) (clean : ∀ text ∈ texts, '\n' ∉ text) :
    linesOf (joinLines texts) = texts :=
  List.splitOn_intercalate '\n' clean h

theorem linesOf_inj {text' : List Char} : linesOf text = linesOf text' ↔ text = text' := by
  refine ⟨?_, fun h => by rw [h]⟩
  intro h
  have hjoined := congrArg joinLines h
  rwa [joinLines, joinLines, linesOf, linesOf, List.intercalate_splitOn, List.intercalate_splitOn] at hjoined

/-- Lines that show one element each are the same for the same elements, as far as a line shows an element. -/
theorem lines_eq_iff {α β : Type} {told : α → β} (line : Nat → α → List Char)
    (htold : ∀ i a b, line i a = line i b ↔ told a = told b) {as bs : List α}
    {lines lines' : List (List Char)} (hlines : ∀ i : Nat, lines[i]? = as[i]?.map (line i))
    (hlines' : ∀ i : Nat, lines'[i]? = bs[i]?.map (line i)) :
    lines = lines' ↔ as.map told = bs.map told := by
  rw [List.ext_getElem?_iff, List.ext_getElem?_iff]
  refine forall_congr' fun i => ?_
  rw [hlines, hlines', List.getElem?_map, List.getElem?_map]
  cases as[i]? with
  | none => cases bs[i]? <;> simp
  | some a =>
    cases bs[i]? with
    | none => simp
    | some b => simp [htold]

/-! ## Items and entries -/

variable {c : Char}

theorem isPrintable_of_mem_showBytes {bytes : Bytes} (h : c ∈ showBytes bytes) : Text.isPrintable c = true := by
  simp only [showBytes, List.cons_append, List.mem_cons, List.mem_append, List.not_mem_nil, or_false] at h
  rcases h with rfl | hescaped | rfl
  · decide
  · exact (Text.escaped_escape _ _).isPrintable hescaped
  · decide

theorem isPrintable_of_mem_showItem {number : Nat} {item : Bytes} (h : c ∈ showItem number item) :
    Text.isPrintable c = true := by
  simp only [showItem, List.mem_append, List.mem_cons, List.not_mem_nil, or_false] at h
  rcases h with (hnumber | rfl | rfl) | hitem
  · rw [Nat.toString_eq_repr, Nat.toList_repr] at hnumber
    exact Text.isPrintable_of_mem_toDigits (by decide) (by decide) hnumber
  · decide
  · decide
  · exact isPrintable_of_mem_showBytes hitem

theorem showItem_inj {number : Nat} {item other : Bytes} :
    showItem number item = showItem number other ↔ Utf8.lossy item = Utf8.lossy other := by
  refine ⟨?_, fun h => by rw [showItem, showItem, showBytes, showBytes, h]⟩
  intro h
  have hpayload : showBytes item = showBytes other := List.append_cancel_left h
  have hescaped := List.append_cancel_right (List.cons.inj hpayload).2
  exact (Text.escaped_escape _ _).inj (Text.escaped_escape _ _) hescaped

/-- The key and the value as texts. -/
def entryTexts (entry : Bytes × Bytes) : List Char × List Char :=
  (Utf8.lossy entry.1, Utf8.lossy entry.2)

/-- A key may hold anything, marks and arrows included; the value is found from behind. -/
theorem showEntry_inj {entry other : Bytes × Bytes} :
    showEntry entry = showEntry other ↔ entryTexts entry = entryTexts other := by
  obtain ⟨key, value⟩ := entry
  obtain ⟨key', value'⟩ := other
  refine ⟨?_, ?_⟩
  · intro h
    have hclosed : (Utf8.lossy key ++ [' ', '=', '>', ' ']) ++ '"' :: Text.escaped (Utf8.lossy value) ++ ['"'] =
        (Utf8.lossy key' ++ [' ', '=', '>', ' ']) ++ '"' :: Text.escaped (Utf8.lossy value') ++ ['"'] := by
      simpa [showEntry, showBytes] using h
    obtain ⟨hkey, hvalue⟩ := (Text.escaped_escape _ _).quotation_inj (Text.escaped_escape _ _)
      (by simp) (by simp) (List.append_cancel_right hclosed)
    rw [entryTexts, entryTexts, List.append_cancel_right hkey, hvalue]
  · intro h
    obtain ⟨hkey, hvalue⟩ := Prod.mk.inj h
    simp only [showEntry, showBytes, hkey, hvalue]

/-- Of the line feeds that a line shows, those of the key are all. -/
theorem count_lineFeed_showEntry (entry : Bytes × Bytes) :
    (showEntry entry).count '\n' = entry.1.count Bytes.lf := by
  have hkey : (Utf8.lossy entry.1).count '\n' = entry.1.count Bytes.lf :=
    Utf8.count_lossy (a := Bytes.lf) (by decide) (by decide) entry.1
  have hvalue : (showBytes entry.2).count '\n' = 0 :=
    List.count_eq_zero.mpr fun h => absurd (isPrintable_of_mem_showBytes h) (by decide)
  rw [showEntry, List.count_append, List.count_append, hkey, hvalue]
  rfl

/-! ## Collections -/

variable {items : List Bytes} {entries : Dictionary}

theorem display_array (h : items ≠ []) : (Value.array items).display =
    joinLines ((items.zipIdx 1).map fun (item, number) => showItem number item) :=
  if_neg (by simpa using h)

theorem display_hash (h : entries ≠ ∅) :
    (Value.hash entries).display = joinLines (entries.toList.map showEntry) :=
  if_neg (by simpa using h)

theorem linesOf_display_array (h : items ≠ []) :
    linesOf (Value.array items).display = (items.zipIdx 1).map fun (item, number) => showItem number item := by
  rw [display_array h]
  refine linesOf_joinLines_of_clean (by simpa using h) ?_
  intro line hline hlf
  obtain ⟨⟨item, number⟩, -, rfl⟩ := List.mem_map.mp hline
  exact absurd (isPrintable_of_mem_showItem hlf) (by decide)

theorem map_showEntry_ne_nil (h : entries ≠ ∅) : entries.toList.map showEntry ≠ [] := by
  intro hnil
  exact h (Std.ExtTreeMap.toList_eq_nil_iff.mp (List.map_eq_nil_iff.mp hnil))

theorem linesOf_display_hash (h : entries ≠ ∅) :
    linesOf (Value.hash entries).display = entries.toList.flatMap fun e => linesOf (showEntry e) := by
  rw [display_hash h, linesOf_joinLines (map_showEntry_ne_nil h), List.flatMap_map]

theorem length_flatMap_showEntry (list : List (Bytes × Bytes)) :
    (list.flatMap fun e => linesOf (showEntry e)).length =
      list.length + (list.flatMap Prod.fst).count Bytes.lf := by
  induction list with
  | nil => rfl
  | cons e list ih =>
    rw [List.flatMap_cons, List.flatMap_cons, List.length_append, List.count_append, ih, length_linesOf,
      count_lineFeed_showEntry, List.length_cons]
    omega

theorem getElem?_linesOf_array (h : items ≠ []) (i : Nat) :
    (linesOf (Value.array items).display)[i]? = items[i]?.map (showItem (i + 1)) := by
  rw [linesOf_display_array h, List.getElem?_map, List.getElem?_zipIdx, Option.map_map, Nat.add_comm 1 i]
  rfl

theorem getElem?_linesOf_hash (h : entries ≠ ∅) (clean : ∀ k ∈ entries, Bytes.lf ∉ k) (i : Nat) :
    (linesOf (Value.hash entries).display)[i]? = entries.toList[i]?.map showEntry := by
  rw [Dictionary.forall_mem_iff_toList] at clean
  have hlines : ∀ line ∈ entries.toList.map showEntry, '\n' ∉ line := by
    intro line hline
    obtain ⟨e, he, rfl⟩ := List.mem_map.mp hline
    rw [← List.count_eq_zero, count_lineFeed_showEntry]
    exact List.count_eq_zero.mpr (clean e he)
  rw [display_hash h, linesOf_joinLines_of_clean (map_showEntry_ne_nil h) hlines, List.getElem?_map]

/-- An array with its lines: one for each item, which shows it behind its number, and no character of which is
invisible. The texts of the items can be told from it. -/
structure ArrayLined (items : List Bytes) : Prop where
  counted : (Value.array items).elementCount = .ok (linesOf (Value.array items).display).length
  shown : ∀ i : Nat, (linesOf (Value.array items).display)[i]? = items[i]?.map (showItem (i + 1))
  visible : ∀ line ∈ linesOf (Value.array items).display, ∀ c ∈ line, Text.isPrintable c = true
  told : ∀ others : List Bytes, others ≠ [] →
    ((Value.array others).display = (Value.array items).display ↔
      others.map Utf8.lossy = items.map Utf8.lossy)

/-- A hash with its lines: the entries come by increasing keys, and an entry has one line more than its key has
line feeds. So the lines are as many as the entries only if no key has any. Then they show one entry each, and
the texts of keys and values can be told from them. -/
structure HashLined (entries : Dictionary) : Prop where
  ordered : entries.toList.Pairwise fun e f => e.1 < f.1
  lines : linesOf (Value.hash entries).display = entries.toList.flatMap fun e => linesOf (showEntry e)
  lengths : ∀ e ∈ entries.toList, (linesOf (showEntry e)).length = e.1.count Bytes.lf + 1
  counted : (Value.hash entries).elementCount = .ok (linesOf (Value.hash entries).display).length ↔
    ∀ k ∈ entries, Bytes.lf ∉ k
  shown : (∀ k ∈ entries, Bytes.lf ∉ k) →
    ∀ i : Nat, (linesOf (Value.hash entries).display)[i]? = entries.toList[i]?.map showEntry
  told : (∀ k ∈ entries, Bytes.lf ∉ k) → ∀ others : Dictionary, others ≠ ∅ →
    (∀ k ∈ others, Bytes.lf ∉ k) → ((Value.hash others).display = (Value.hash entries).display ↔
      others.toList.map entryTexts = entries.toList.map entryTexts)

theorem arrayLined (h : items ≠ []) : ArrayLined items where
  counted := by
    rw [linesOf_display_array h]
    simp [elementCount]
  shown := getElem?_linesOf_array h
  visible line hline c hc := by
    rw [linesOf_display_array h] at hline
    obtain ⟨⟨item, number⟩, -, rfl⟩ := List.mem_map.mp hline
    exact isPrintable_of_mem_showItem hc
  told others hothers :=
    linesOf_inj.symm.trans <| lines_eq_iff (fun i => showItem (i + 1)) (fun _ _ _ => showItem_inj)
      (getElem?_linesOf_array hothers) (getElem?_linesOf_array h)

theorem hashLined (h : entries ≠ ∅) : HashLined entries where
  ordered := entries.pairwise_lt_toList
  lines := linesOf_display_hash h
  lengths e _ := by rw [length_linesOf, count_lineFeed_showEntry]
  counted := by
    have hclean : (entries.toList.flatMap Prod.fst).count Bytes.lf = 0 ↔ ∀ k ∈ entries, Bytes.lf ∉ k := by
      rw [List.count_eq_zero, Dictionary.forall_mem_iff_toList]
      simp
    -- No entry is without a line, so the counts agree only if no key adds any.
    rw [linesOf_display_hash h, length_flatMap_showEntry, Std.ExtTreeMap.length_toList, ← hclean]
    simp [elementCount]
  shown := getElem?_linesOf_hash h
  told clean others hothers hclean :=
    linesOf_inj.symm.trans <| lines_eq_iff (fun _ => showEntry) (fun _ _ _ => showEntry_inj)
      (getElem?_linesOf_hash hothers hclean) (getElem?_linesOf_hash h clean)

/-- A collection of either kind, with its lines. -/
inductive Lined : Value → Prop where
  | array {items : List Bytes} (lined : ArrayLined items) : Lined (.array items)
  | hash {entries : Dictionary} (lined : HashLined entries) : Lined (.hash entries)

/-- **A line of its own for each item, and for each entry with no line feed in its key**, in every value that
counts any element. -/
theorem collection_line_by_line {v : Value} {n : Nat} (hcount : v.elementCount = .ok n) (hpos : 0 < n) :
    Lined v := by
  cases v with
  | array items =>
    have hlength : items.length = n := Except.ok.inj hcount
    refine .array (arrayLined fun hnil => ?_)
    rw [hnil, List.length_nil] at hlength
    omega
  | hash entries =>
    have hsize : entries.size = n := Except.ok.inj hcount
    refine .hash (hashLined fun hempty => ?_)
    rw [hempty, Std.ExtTreeMap.size_empty] at hsize
    omega
  | error | absent | integer | boolean | double | bulk | type | queued => exact nomatch hcount

/-- An item that looks like the line of a second one, and a value that looks like a second entry. -/
theorem collection_line_by_line_lookalikes :
    Lined (.array [[34, 10, 50, 41, 32, 34], [255]]) ∧
      Lined (.hash (Dictionary.ofEntries [([98], [49, 34, 10, 99]), ([97], [255])])) :=
  ⟨collection_line_by_line (n := 2) rfl (by decide), collection_line_by_line (n := 2) rfl (by decide)⟩

/-- A hash of one entry, shown as if `a` were a line of its own. -/
theorem entry_on_two_lines :
    (Value.hash (Dictionary.ofEntries [([97, 10, 98], [49])])).elementCount = .ok 1 ∧
      linesOf (Value.hash (Dictionary.ofEntries [([97, 10, 98], [49])])).display =
        ["a".toList, "b => \"1\"".toList] :=
  ⟨rfl, rfl⟩

end Value

end StoreClient
