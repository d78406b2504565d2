import StoreClient.Text.CodeRanges

/-!
# `StoreClient/Proofs/Text/CodeRanges.lean` — the search finds what lies in a range

A look-up in a set of code points reads a dozen of its ranges and passes over hundreds. **It finds the code
points of every range, and no other** (`contains_iff`).

Each halving drops one half of an interval of indices, and what it drops cannot have the code point, because
of two ranges the first one ends before the second one begins. The set carries that as a check of
neighbours; here it is read for any two ranges (`increasing_iff`, `last_lt_first`).
-/

set_option autoImplicit false

namespace StoreClient

namespace CodeRanges

theorem increasing_iff (ranges : List (Nat × Nat)) :
    increasing ranges = true ↔
      (∀ r ∈ ranges, r.1 ≤ r.2) ∧ ranges.Pairwise fun r s => r.2 + 1 < s.1 := by
  fun_induction increasing ranges with
  | case1 => simp
  | case2 r => simp
  | case3 r next rest ih =>
    simp only [Bool.and_eq_true, decide_eq_true_eq, ih, List.forall_mem_cons, List.pairwise_cons]
    refine ⟨?_, ?_⟩
    · intro ⟨⟨hr, hgap⟩, ⟨hnext, hends⟩, hlater, hrest⟩
      -- What is behind the next range is behind this one too, since the next one is not empty.
      have hfurther : ∀ s ∈ rest, r.2 + 1 < s.1 := fun s hs => by
        have := hlater s hs
        omega
      exact ⟨⟨hr, hnext, hends⟩, ⟨hgap, hfurther⟩, hlater, hrest⟩
    · intro ⟨⟨hr, hnext, hends⟩, ⟨hgap, _⟩, hlater, hrest⟩
      exact ⟨⟨hr, hgap⟩, ⟨hnext, hends⟩, hlater, hrest⟩

variable {set : CodeRanges} {code steps low high i j : Nat} {r s : Nat × Nat}

theorem first_le_last (h : set.ranges[i]? = some r) : r.1 ≤ r.2 := by
  have hends := ((increasing_iff _).mp set.ordered).1
  exact hends r (Array.mem_toList_iff.mpr (Array.mem_of_getElem? h))

/-- Of two ranges, the first one ends before the second one begins. -/
theorem last_lt_first (hij : i < j) (hi : set.ranges[i]? = some r) (hj : set.ranges[j]? = some s) :
    r.2 < s.1 := by
  have hpairs := ((increasing_iff _).mp set.ordered).2
  rw [← Array.getElem?_toList, List.getElem?_eq_some_iff] at hi hj
  obtain ⟨hilt, rfl⟩ := hi
  obtain ⟨hjlt, rfl⟩ := hj
  have hgap := List.pairwise_iff_getElem.mp hpairs i j hilt hjlt hij
  omega

/-- The code point lies in one of the ranges with index in `[low, high)`. -/
def Lies (set : CodeRanges) (code low high : Nat) : Prop :=
  ∃ (i : Nat) (r : Nat × Nat),
    low ≤ i ∧ i < high ∧ set.ranges[i]? = some r ∧ r.1 ≤ code ∧ code ≤ r.2

/-- A code point before a range can only lie before its index. -/
theorem lies_iff_of_lt (hmiddle : set.ranges[j]? = some s) (hlt : code < s.1) (hj : j ≤ high) :
    set.Lies code low high ↔ set.Lies code low j := by
  refine ⟨?_, ?_⟩
  · intro ⟨i, r, hlow, hhigh, hi, hfirst, hlast⟩
    refine ⟨i, r, hlow, ?_, hi, hfirst, hlast⟩
    rcases Nat.lt_trichotomy i j with h | rfl | h
    · exact h
    · cases hi.symm.trans hmiddle
      omega
    · have hgap := last_lt_first h hmiddle hi
      have hends := first_le_last hmiddle
      omega
  · intro ⟨i, r, hlow, hlt, hi, hends⟩
    exact ⟨i, r, hlow, by omega, hi, hends⟩

/-- A code point behind a range can only lie behind its index. -/
theorem lies_iff_of_gt (hmiddle : set.ranges[j]? = some s) (hgt : s.2 < code) (hj : low ≤ j) :
    set.Lies code low high ↔ set.Lies code (j + 1) high := by
  refine ⟨?_, ?_⟩
  · intro ⟨i, r, hlow, hhigh, hi, hfirst, hlast⟩
    refine ⟨i, r, ?_, hhigh, hi, hfirst, hlast⟩
    rcases Nat.lt_trichotomy i j with h | rfl | h
    · have hgap := last_lt_first h hi hmiddle
      have hends := first_le_last hmiddle
      omega
    · cases hi.symm.trans hmiddle
      omega
    · exact h
  · intro ⟨i, r, hlow, hhigh, hi, hends⟩
    exact ⟨i, r, by omega, hhigh, hi, hends⟩

theorem middle_bounds (hopen : ¬ high ≤ low) : low ≤ (low + high) / 2 ∧ (low + high) / 2 < high := by
  omega

/-- With a step for each index, the search of an interval ends in an answer, and it is the right one. -/
theorem search_eq_true_iff (hhigh : high ≤ set.ranges.size) (hsteps : high - low ≤ steps) :
    set.search code steps low high = true ↔ set.Lies code low high := by
  fun_induction set.search code steps low high with
  | case1 low high =>
    simp only [Bool.false_eq_true, false_iff]
    intro ⟨i, r, hlow, hlt, _⟩
    omega
  | case2 steps low high hempty =>
    simp only [Bool.false_eq_true, false_iff]
    intro ⟨i, r, hlow, hlt, _⟩
    omega
  | case3 steps low high hopen middle hnone =>
    obtain ⟨-, hbelow⟩ : low ≤ middle ∧ middle < high := middle_bounds hopen
    have hsize := Array.getElem?_eq_none_iff.mp hnone
    omega
  | case4 steps low high hopen middle first last hmiddle hbefore ih =>
    obtain ⟨habove, hbelow⟩ : low ≤ middle ∧ middle < high := middle_bounds hopen
    have hrest := ih (by omega) (by omega)
    exact hrest.trans (lies_iff_of_lt hmiddle hbefore (Nat.le_of_lt hbelow)).symm
  | case5 steps low high hopen middle first last hmiddle hreached hbehind ih =>
    obtain ⟨habove, hbelow⟩ : low ≤ middle ∧ middle < high := middle_bounds hopen
    have hrest := ih hhigh (by omega)
    exact hrest.trans (lies_iff_of_gt hmiddle hbehind habove).symm
  | case6 steps low high hopen middle first last hmiddle hreached hwithin =>
    obtain ⟨habove, hbelow⟩ : low ≤ middle ∧ middle < high := middle_bounds hopen
    simp only [true_iff]
    exact ⟨middle, (first, last), habove, hbelow, hmiddle, Nat.le_of_not_lt hreached,
      Nat.le_of_not_lt hwithin⟩

/-- **A set contains the characters whose code points lie in its ranges.** -/
theorem contains_iff (set : CodeRanges) (c : Char) :
    set.contains c = true ↔ ∃ r ∈ set.ranges, r.1 ≤ c.toNat ∧ c.toNat ≤ r.2 := by
  unfold contains
  rw [search_eq_true_iff (Nat.le_refl _) (Nat.sub_le _ _)]
  refine ⟨?_, ?_⟩
  · intro ⟨i, r, _, _, hi, hends⟩
    exact ⟨r, Array.mem_of_getElem? hi, hends⟩
  · intro ⟨r, hr, hends⟩
    obtain ⟨i, hi⟩ := Array.getElem?_of_mem hr
    have hlt : i < set.ranges.size := by
      obtain ⟨hlt, -⟩ := Array.getElem?_eq_some_iff.mp hi
      exact hlt
    exact ⟨i, r, Nat.zero_le i, hlt, hi, hends⟩

end CodeRanges

end StoreClient
