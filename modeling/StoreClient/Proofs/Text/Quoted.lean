import Mathlib.Data.List.Nodup
import StoreClient.Text.Quoted

/-!
# `StoreClient/Proofs/Text/Quoted.lean` — what an escaped text is made of

A character is written in one of three ways (`Written`): as itself, as a backslash and a letter, or by its
number. Which one is a matter of the form of escaping and of the place, and nothing here depends on it. A text
is escaped if its characters are written so, one behind the other (`Escaped`), and three things are true of
every escaped text:

* **nothing invisible is left in it** (`Escaped.isPrintable`), so no line is ended, overwritten or hidden by a
  character of the text;
* **the text can be told from it** (`Escaped.inj`), since no two ways of writing start with the same;
* every quotation mark in it stands behind a backslash (`Escaped.behind_backslash`), so the mark that ends a
  quotation is not taken for one inside.
-/

set_option autoImplicit false

namespace StoreClient

namespace Text

/-- The escapes of two characters: what is escaped, and the letter behind the backslash. -/
def shortEscapes : List (Char × Char) :=
  [('\x00', '0'), ('\t', 't'), ('\r', 'r'), ('\n', 'n'), ('\\', '\\'), ('"', '"'), ('\'', '\'')]

/-- The ways in which a character is written. -/
inductive Written (c : Char) : List Char → Prop where
  | plain (visible : isPrintable c = true) (hslash : c ≠ '\\') (hquote : c ≠ '"') : Written c [c]
  | short {letter : Char} (h : (c, letter) ∈ shortEscapes) : Written c ['\\', letter]
  | byNumber : Written c (byNumber c)

/-- The second text is the first one, escaped in some form. -/
inductive Escaped : List Char → List Char → Prop where
  | nil : Escaped [] []
  | cons {c : Char} {out text shown : List Char} (first : Written c out) (rest : Escaped text shown) :
    Escaped (c :: text) (out ++ shown)

variable {n : Nat} {c d x letter : Char} {out out' text text' shown shown' y z : List Char}

theorem written_escapeChar (apostrophe marks : Bool) (c : Char) :
    Written c (escapeChar apostrophe marks c) := by
  fun_cases escapeChar apostrophe marks c with
  | case8 =>
    subst_vars
    exact .plain (by decide) (by decide) (by decide)
  | case9 | case11 => exact .byNumber
  | case10 => exact .plain ‹_› ‹_› ‹_›
  | _ =>
    subst_vars
    exact .short (by decide)

theorem escaped_flatMap (apostrophe marks : Bool) (text : List Char) :
    Escaped text (text.flatMap (escapeChar apostrophe marks)) := by
  induction text with
  | nil => exact .nil
  | cons c text ih => exact .cons (written_escapeChar apostrophe marks c) ih

theorem escaped_escape (form : Escaping) (text : List Char) : Escaped text (escape form text) := by
  cases text with
  | nil => exact .nil
  | cons c text => exact .cons (written_escapeChar _ _ c) (escaped_flatMap _ _ text)

/-! ## Digits -/

theorem exists_digit_of_mem_toDigits {base : Nat} (hbase : 1 < base) (h : x ∈ Nat.toDigits base n) :
    ∃ d < base, x = Nat.digitChar d := by
  induction n using Nat.strongRecOn with
  | ind n ih =>
    rw [Nat.toDigits_eq_if hbase] at h
    split at h
    · next hlt => exact ⟨n, hlt, List.mem_singleton.mp h⟩
    · next hge =>
      rcases List.mem_append.mp h with hmem | hmem
      · exact ih (n / base) (Nat.div_lt_self (by omega) hbase) hmem
      · exact ⟨n % base, Nat.mod_lt n (by omega), List.mem_singleton.mp hmem⟩

theorem isPrintable_digitChar : ∀ d < 16, isPrintable (Nat.digitChar d) = true := by
  decide

theorem isPrintable_of_mem_toDigits {base : Nat} (hlow : 1 < base) (hhigh : base ≤ 16)
    (h : x ∈ Nat.toDigits base n) : isPrintable x = true := by
  obtain ⟨d, hd, rfl⟩ := exists_digit_of_mem_toDigits hlow h
  exact isPrintable_digitChar d (Nat.lt_of_lt_of_le hd hhigh)

theorem digitChar_inj : ∀ d < 16, ∀ e < 16, Nat.digitChar d = Nat.digitChar e → d = e := by
  decide

theorem toDigits_inj {m : Nat} (h : Nat.toDigits 16 m = Nat.toDigits 16 n) : m = n := by
  induction m using Nat.strongRecOn generalizing n with
  | ind m ih =>
    by_cases hm : m < 16
    · by_cases hn : n < 16
      · rw [Nat.toDigits_of_lt_base hm, Nat.toDigits_of_lt_base hn] at h
        exact digitChar_inj m hm n hn (List.singleton_inj.mp h)
      · rw [Nat.toDigits_of_lt_base hm, Nat.toDigits_of_base_le (by decide) (Nat.not_lt.mp hn)] at h
        have hsplit : [] ++ [Nat.digitChar m] = Nat.toDigits 16 (n / 16) ++ [Nat.digitChar (n % 16)] := h
        exact absurd (List.append_inj' hsplit rfl).1.symm Nat.toDigits_ne_nil
    · by_cases hn : n < 16
      · rw [Nat.toDigits_of_lt_base hn, Nat.toDigits_of_base_le (by decide) (Nat.not_lt.mp hm)] at h
        have hsplit : Nat.toDigits 16 (m / 16) ++ [Nat.digitChar (m % 16)] = [] ++ [Nat.digitChar n] := h
        exact absurd (List.append_inj' hsplit rfl).1 Nat.toDigits_ne_nil
      · rw [Nat.toDigits_of_base_le (by decide) (Nat.not_lt.mp hm),
          Nat.toDigits_of_base_le (by decide) (Nat.not_lt.mp hn)] at h
        obtain ⟨hfront, hlast⟩ := List.append_inj' h rfl
        have hdiv := ih (m / 16) (by omega) hfront
        have hmod := digitChar_inj _ (Nat.mod_lt m (by decide)) _ (Nat.mod_lt n (by decide))
          (List.singleton_inj.mp hlast)
        omega

/-! ## One character -/

theorem mem_byNumber_cases (h : x ∈ byNumber c) :
    x = '\\' ∨ x = 'u' ∨ x = '\x7b' ∨ x = '\x7d' ∨ ∃ d < 16, x = Nat.digitChar d := by
  simp only [byNumber, List.cons_append, List.mem_cons, List.mem_append, List.not_mem_nil, or_false] at h
  rcases h with hslash | hu | hopen | hdigit | hclose
  · exact .inl hslash
  · exact .inr (.inl hu)
  · exact .inr (.inr (.inl hopen))
  · exact .inr (.inr (.inr (.inr (exists_digit_of_mem_toDigits (by decide) hdigit))))
  · exact .inr (.inr (.inr (.inl hclose)))

theorem shortEscapes_inj (hc : (c, letter) ∈ shortEscapes) (hd : (d, letter) ∈ shortEscapes) : c = d :=
  congrArg Prod.fst (List.inj_on_of_nodup_map (f := Prod.snd) (by decide) hc hd rfl)

theorem isPrintable_of_mem_shortEscapes (h : (c, letter) ∈ shortEscapes) : isPrintable letter = true := by
  have hall : (shortEscapes.map Prod.snd).all isPrintable = true := by decide
  exact List.all_eq_true.mp hall letter (List.mem_map_of_mem h)

theorem u_notMem_shortEscapes : (c, 'u') ∉ shortEscapes := by
  intro h
  have hletters : 'u' ∉ shortEscapes.map Prod.snd := by decide
  exact hletters (List.mem_map_of_mem h)

theorem quote_notMem_byNumber : '"' ∉ byNumber c := by
  intro h
  rcases mem_byNumber_cases h with h | h | h | h | ⟨d, hd, h⟩
  · exact absurd h (by decide)
  · exact absurd h (by decide)
  · exact absurd h (by decide)
  · exact absurd h (by decide)
  · revert d
    decide

/-- The first of two separators stands in the same place on both sides. -/
theorem append_cons_inj {sep : Char} {front front' : List Char} (hfront : sep ∉ front)
    (hfront' : sep ∉ front') (h : front ++ sep :: y = front' ++ sep :: z) : front = front' ∧ y = z := by
  induction front generalizing front' with
  | nil =>
    cases front' with
    | nil => exact ⟨rfl, (List.cons.inj h).2⟩
    | cons c front' => exact absurd ((List.cons.inj h).1 ▸ List.mem_cons_self) hfront'
  | cons c front ih =>
    cases front' with
    | nil => exact absurd ((List.cons.inj h).1 ▸ List.mem_cons_self) hfront
    | cons d front' =>
      obtain ⟨rfl, htail⟩ := List.cons.inj h
      obtain ⟨rfl, rfl⟩ := ih (List.not_mem_of_not_mem_cons hfront)
        (List.not_mem_of_not_mem_cons hfront') htail
      exact ⟨rfl, rfl⟩

theorem byNumber_append_inj (h : byNumber c ++ y = byNumber d ++ z) : c = d ∧ y = z := by
  have hclosing : ∀ e : Char, '\x7d' ∉ Nat.toDigits 16 e.toNat := by
    intro e hmem
    obtain ⟨digit, hlt, heq⟩ := exists_digit_of_mem_toDigits (by decide) hmem
    revert digit
    decide
  have hbody : Nat.toDigits 16 c.toNat ++ '\x7d' :: y = Nat.toDigits 16 d.toNat ++ '\x7d' :: z := by
    simpa [byNumber] using h
  obtain ⟨hdigits, rfl⟩ := append_cons_inj (hclosing c) (hclosing d) hbody
  exact ⟨Char.toNat_inj.mp (toDigits_inj hdigits), rfl⟩

namespace Written

theorem ne_nil (h : Written c out) : out ≠ [] := by
  cases h <;> exact List.cons_ne_nil _ _

theorem isPrintable (h : Written c out) (hx : x ∈ out) : isPrintable x = true := by
  cases h with
  | plain visible => rwa [List.mem_singleton.mp hx]
  | short hletter =>
    rcases List.mem_cons.mp hx with rfl | hx
    · decide
    · rw [List.mem_singleton.mp hx]
      exact isPrintable_of_mem_shortEscapes hletter
  | byNumber =>
    rcases mem_byNumber_cases hx with rfl | rfl | rfl | rfl | ⟨d, hd, rfl⟩
    · decide
    · decide
    · decide
    · decide
    · exact isPrintable_digitChar d hd

/-- No two ways of writing start with the same. -/
theorem append_inj (hc : Written c out) (hd : Written d out') (h : out ++ y = out' ++ z) :
    c = d ∧ y = z := by
  cases hc with
  | plain _ hslash =>
    cases hd with
    | plain => exact List.cons.inj h
    | short | byNumber => exact absurd (List.cons.inj h).1 hslash
  | short hletter =>
    cases hd with
    | plain _ hslash => exact absurd (List.cons.inj h).1.symm hslash
    | short hletter' =>
      obtain ⟨rfl, hrest⟩ := List.cons.inj (List.cons.inj h).2
      exact ⟨shortEscapes_inj hletter hletter', hrest⟩
    | byNumber =>
      obtain ⟨rfl, -⟩ := List.cons.inj (List.cons.inj h).2
      exact absurd hletter u_notMem_shortEscapes
  | byNumber =>
    cases hd with
    | plain _ hslash => exact absurd (List.cons.inj h).1.symm hslash
    | short hletter =>
      obtain ⟨rfl, -⟩ := List.cons.inj (List.cons.inj h).2
      exact absurd hletter u_notMem_shortEscapes
    | byNumber => exact byNumber_append_inj h

theorem behind_backslash (hc : Written c out) (h : out = y ++ '"' :: z) : y.getLast? = some '\\' := by
  cases hc with
  | plain _ _ hquote =>
    have hmem : '"' ∈ [c] := by simp [h]
    exact absurd (List.mem_singleton.mp hmem).symm hquote
  | short =>
    rcases y with _ | ⟨slash, _ | ⟨other, y⟩⟩
    · exact absurd (List.cons.inj h).1 (by decide)
    · rw [← (List.cons.inj h).1]
      rfl
    · simp at h
  | byNumber => exact absurd (h ▸ List.mem_append_right y List.mem_cons_self) quote_notMem_byNumber

end Written

/-! ## Whole texts -/

namespace Escaped

theorem isPrintable (h : Escaped text shown) (hx : x ∈ shown) : isPrintable x = true := by
  induction h with
  | nil => exact absurd hx List.not_mem_nil
  | cons first rest ih =>
    rcases List.mem_append.mp hx with hfirst | hrest
    · exact first.isPrintable hfirst
    · exact ih hrest

theorem inj (h : Escaped text shown) (h' : Escaped text' shown') (heq : shown = shown') : text = text' := by
  induction h generalizing text' shown' with
  | nil =>
    cases h' with
    | nil => rfl
    | cons first => exact absurd (List.append_eq_nil_iff.mp heq.symm).1 first.ne_nil
  | cons first rest ih =>
    cases h' with
    | nil => exact absurd (List.append_eq_nil_iff.mp heq).1 first.ne_nil
    | cons first' rest' =>
      obtain ⟨rfl, hrest⟩ := first.append_inj first' heq
      rw [ih rest' hrest]

theorem behind_backslash (h : Escaped text shown) (hquote : shown = y ++ '"' :: z) :
    y.getLast? = some '\\' := by
  induction h generalizing y with
  | nil => simp at hquote
  | cons first rest ih =>
    rcases List.append_eq_append_iff.mp hquote with ⟨m, rfl, hm⟩ | ⟨m, hout, hm⟩
    · have hlast := ih hm
      rw [List.getLast?_append, hlast]
      rfl
    · cases m with
      | nil =>
        -- The mark would be the first of what follows, where it is behind a backslash as well.
        have hlast := ih (y := []) hm.symm
        exact absurd hlast (by decide)
      | cons e m =>
        obtain ⟨rfl, -⟩ := List.cons.inj hm
        exact first.behind_backslash hout

/-- What is before the mark that opens a quotation is told from the quotation, if it does not end in a
backslash. -/
theorem eq_nil_of_quote {front front' between : List Char} (h : Escaped text shown)
    (hfront : front'.getLast? ≠ some '\\') (hbetween : front' = front ++ between)
    (hquote : '"' :: shown = between ++ '"' :: shown') : between = [] := by
  cases between with
  | nil => rfl
  | cons mark between =>
    have hlast := h.behind_backslash (List.cons.inj hquote).2
    rw [hbetween, List.getLast?_append, List.getLast?_cons, hlast] at hfront
    exact absurd rfl hfront

theorem quotation_inj {front front' : List Char} (h : Escaped text shown) (h' : Escaped text' shown')
    (hfront : front.getLast? ≠ some '\\') (hfront' : front'.getLast? ≠ some '\\')
    (heq : front ++ '"' :: shown = front' ++ '"' :: shown') : front = front' ∧ text = text' := by
  rcases List.append_eq_append_iff.mp heq with ⟨between, hbetween, hquote⟩ | ⟨between, hbetween, hquote⟩
  · obtain rfl := h.eq_nil_of_quote hfront' hbetween hquote
    exact ⟨by simpa using hbetween.symm, h.inj h' (List.cons.inj hquote).2⟩
  · obtain rfl := h'.eq_nil_of_quote hfront hbetween hquote
    exact ⟨by simpa using hbetween, h.inj h' (List.cons.inj hquote).2.symm⟩

end Escaped

end Text

end StoreClient
