import StoreClient.Value.Dictionary
import Mathlib.Data.Set.Card

/-!
# `StoreClient/Proofs/Value/Dictionary.lean` — a dictionary that was filled from a list

Whatever a reply says with keys and values ends up in a dictionary, entry by entry, and what becomes of a key
that comes more than once is a matter of how the entries are put in. Both ways are look-ups in the list:
**overwriting finds the last entry of a key** (`getElem?_insertAll`), and **keeping what is there finds the
first** (`getElem?_insertNew`). How it was filled does not show in the list of its entries, which has them
by increasing keys (`pairwise_lt_toList`).

Most lists of entries are read off something else, piece by piece, where some pieces give no entry. So the
two look-ups are stated for such a list as well, in terms of the pieces.
-/

set_option autoImplicit false

namespace StoreClient

namespace Dictionary

variable {d : Dictionary} {entries : List (Bytes × Bytes)} {k v : Bytes}

theorem getElem?_insertAll (d : Dictionary) (entries : List (Bytes × Bytes)) (k : Bytes) :
    (insertAll d entries)[k]? = (entries.reverse.lookup k).or d[k]? := by
  induction entries generalizing d with
  | nil => simp [insertAll]
  | cons e entries ih =>
    obtain ⟨key, value⟩ := e
    rw [insertAll, List.foldl_cons, ← insertAll, ih, List.reverse_cons, List.lookup_append,
      Option.or_assoc, Std.ExtTreeMap.getElem?_insert]
    by_cases hk : key = k
    · simp [hk]
    · have hk' : (k == key) = false := by simpa using fun h : k = key => hk h.symm
      simp [hk, hk', List.lookup_cons]

theorem getElem?_insertNew (d : Dictionary) (entries : List (Bytes × Bytes)) (k : Bytes) :
    (entries.foldl (fun d e => d.insertIfNew e.1 e.2) d)[k]? = d[k]?.or (entries.lookup k) := by
  induction entries generalizing d with
  | nil => simp
  | cons e entries ih =>
    obtain ⟨key, value⟩ := e
    rw [List.foldl_cons, ih, Std.ExtTreeMap.getElem?_insertIfNew]
    by_cases hk : key = k
    · subst hk
      by_cases hmem : key ∈ d <;> simp [hmem]
    · have hk' : (k == key) = false := by simpa using fun h : k = key => hk h.symm
      simp [hk, hk', List.lookup_cons]

/-- A dictionary has as many entries as keys. -/
theorem size_eq_ncard (d : Dictionary) : d.size = {k | k ∈ d}.ncard := by
  have hkeys : {k | k ∈ d} = ↑d.keys.toFinset := by
    ext k
    simp
  rw [hkeys, Set.ncard_coe_finset, List.toFinset_card_of_nodup Std.ExtTreeMap.nodup_keys,
    Std.ExtTreeMap.length_keys]

/-! ## The list of entries -/

/-- Byte strings are compared byte by byte, and one that another starts with is the lesser. -/
theorem compare_eq_lt_iff {a b : Bytes} : compare a b = .lt ↔ a < b := by
  rw [List.compare_eq_compareLex]
  induction a generalizing b with
  | nil => cases b <;> simp [List.compareLex_nil_nil, List.compareLex_nil_cons]
  | cons x xs ih =>
    cases b with
    | nil => simp [List.compareLex_cons_nil]
    | cons y ys =>
      rw [List.compareLex_cons_cons, List.cons_lt_cons_iff, Ordering.then_eq_lt, ih]
      simp [Std.compare_eq_lt]

theorem pairwise_lt_toList (d : Dictionary) : d.toList.Pairwise fun e f => e.1 < f.1 :=
  Std.ExtTreeMap.ordered_keys_toList.imp compare_eq_lt_iff.mp

theorem forall_mem_iff_toList {P : Bytes → Prop} :
    (∀ k ∈ d, P k) ↔ ∀ e ∈ d.toList, P e.1 := by
  simp only [← Std.ExtTreeMap.mem_keys, ← Std.ExtTreeMap.map_fst_toList_eq_keys, List.forall_mem_map]

/-! ## Entries that are read off pieces -/

section Pieces

variable {α : Type} {pieces : List α} {read? : α → Option (Bytes × Bytes)}

theorem lookup_filterMap_eq_some_iff :
    (pieces.filterMap read?).lookup k = some v ↔
      ∃ before piece after, pieces = before ++ piece :: after ∧ read? piece = some (k, v) ∧
        ∀ other ∈ before, ∀ w, read? other ≠ some (k, w) := by
  rw [List.lookup_eq_some_iff]
  refine ⟨?_, ?_⟩
  · intro h
    obtain ⟨front, back, hsplit, hfront⟩ := h
    obtain ⟨before, rest, rfl, rfl, hrest⟩ := List.filterMap_eq_append_iff.mp hsplit
    obtain ⟨skipped, piece, after, rfl, hskipped, hpiece, -⟩ := List.filterMap_eq_cons_iff.mp hrest
    refine ⟨before ++ skipped, piece, after, by simp, hpiece, ?_⟩
    intro other hother w hw
    rcases List.mem_append.mp hother with hmem | hmem
    · simpa using hfront (k, w) (List.mem_filterMap.mpr ⟨other, hmem, hw⟩)
    · simp [hskipped other hmem] at hw
  · intro h
    obtain ⟨before, piece, after, rfl, hpiece, hbefore⟩ := h
    refine ⟨before.filterMap read?, after.filterMap read?, by simp [hpiece], ?_⟩
    intro e he
    obtain ⟨other, hother, hread⟩ := List.mem_filterMap.mp he
    have hne : k ≠ e.1 := fun hk => hbefore other hother e.2 (by rw [hread, hk])
    simpa using hne

/-- What is behind a place in a list, by splitting and by counting. -/
theorem exists_split_iff_index {P : α → Prop} {a : α} :
    (∃ before after, pieces = before ++ a :: after ∧ ∀ b ∈ after, P b) ↔
      ∃ i : Nat, pieces[i]? = some a ∧ ∀ (j : Nat) b, i < j → pieces[j]? = some b → P b := by
  refine ⟨?_, ?_⟩
  · intro h
    obtain ⟨before, after, rfl, hafter⟩ := h
    refine ⟨before.length, by simp, ?_⟩
    intro j b hj hb
    obtain ⟨m, rfl⟩ := Nat.exists_eq_add_of_lt hj
    refine hafter b (List.mem_of_getElem? (i := m) ?_)
    simpa [List.getElem?_append_right, Nat.add_assoc] using hb
  · intro h
    obtain ⟨i, ha, hlater⟩ := h
    obtain ⟨hi, rfl⟩ := List.getElem?_eq_some_iff.mp ha
    refine ⟨pieces.take i, pieces.drop (i + 1), by simp, ?_⟩
    intro b hb
    obtain ⟨m, hm⟩ := List.mem_iff_getElem?.mp hb
    rw [List.getElem?_drop] at hm
    exact hlater _ b (by omega) hm

/-- A dictionary that was filled over and over holds a key with the value of the last piece that has it. -/
theorem getElem?_insertAll_filterMap :
    (insertAll ∅ (pieces.filterMap read?))[k]? = some v ↔
      ∃ (i : Nat) (piece : α), pieces[i]? = some piece ∧ read? piece = some (k, v) ∧
        ∀ (j : Nat) (other : α), i < j → pieces[j]? = some other → ∀ w, read? other ≠ some (k, w) := by
  rw [getElem?_insertAll, ← List.filterMap_reverse]
  simp only [Std.ExtTreeMap.getElem?_empty, Option.or_none]
  rw [lookup_filterMap_eq_some_iff]
  refine ⟨?_, ?_⟩
  · intro h
    obtain ⟨after, piece, before, hsplit, hpiece, hafter⟩ := h
    have hpieces : pieces = before.reverse ++ piece :: after.reverse := by
      simpa using congrArg List.reverse hsplit
    obtain ⟨i, hi, hlater⟩ := exists_split_iff_index.mp
      ⟨_, _, hpieces, fun b hb => hafter b (List.mem_reverse.mp hb)⟩
    exact ⟨i, piece, hi, hpiece, hlater⟩
  · intro h
    obtain ⟨i, piece, hi, hpiece, hlater⟩ := h
    obtain ⟨before, after, rfl, hafter⟩ := exists_split_iff_index.mpr ⟨i, hi, hlater⟩
    exact ⟨after.reverse, piece, before.reverse, by simp, hpiece,
      fun b hb => hafter b (List.mem_reverse.mp hb)⟩

theorem mem_insertAll_filterMap :
    k ∈ insertAll ∅ (pieces.filterMap read?) ↔
      ∃ (i : Nat) (piece : α) (v : Bytes), pieces[i]? = some piece ∧ read? piece = some (k, v) := by
  rw [Std.ExtTreeMap.mem_iff_isSome_getElem?, getElem?_insertAll]
  simp only [Std.ExtTreeMap.getElem?_empty, Option.or_none]
  rw [List.lookup_isSome_iff]
  simp only [List.mem_reverse, List.mem_filterMap, beq_iff_eq]
  refine ⟨?_, ?_⟩
  · rintro ⟨e, ⟨piece, hpiece, hread⟩, rfl⟩
    obtain ⟨i, hi⟩ := List.mem_iff_getElem?.mp hpiece
    exact ⟨i, piece, e.2, hi, hread⟩
  · rintro ⟨i, piece, v, hi, hread⟩
    exact ⟨(k, v), ⟨piece, List.mem_of_getElem? hi, hread⟩, rfl⟩

end Pieces

end Dictionary

end StoreClient
