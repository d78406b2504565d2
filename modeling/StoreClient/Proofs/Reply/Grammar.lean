import StoreClient.Proofs.Decimal
import StoreClient.Reply.Header

/-!
# `StoreClient/Proofs/Reply/Grammar.lean` — the grammar of replies

What a reply looks like on the wire, written down with no reader in mind: `Derives limits d p f` says
that the bytes `p` are, from the first to the last, one reply that stands for the frame `f`, at a place
where `d` arrays are open around it. The limits are part of the grammar, because a reply that exceeds
them is refused and so is no reply here.

    status    + text CR LF
    error     - text CR LF
    integer   : text CR LF
    bulk      $ length CR LF payload CR LF         null with the length -1
    array     * count CR LF reply ... reply        null with any negative count

Two of its corners are deliberate. **A null array needs no room**: it opens nothing, so it is a reply at
every depth. And a payload is cut out by its length alone, so it may hold anything, line ends and sigils
included.

The second half of the file reads the same off a first line: `Header.ofLine` promises exactly what the
grammar allows to follow (`ofLength_eq_ok_iff`, `ofCount_eq_ok_iff`).
-/

set_option autoImplicit false

namespace StoreClient

open Decimal (Denotes)

/-- A reply on the wire and the frame that it stands for. -/
structure Reply where
  bytes : Bytes
  frame : Frame

/-- The byte that announces a kind of reply: `+`, `-`, `:`, `$` and `*`. -/
def Header.Sigil.byte : Header.Sigil → UInt8
  | .status => 43
  | .error => 45
  | .integer => 58
  | .bulk => 36
  | .array => 42

/-- The bytes are a line with its end: a sigil and a text without a line feed, and all of it no longer
than a line may be. -/
structure IsLine (sigil : Header.Sigil) (text line : Bytes) : Prop where
  spelt : line = sigil.byte :: text ++ Bytes.crlf
  clean : Bytes.lf ∉ text
  bounded : line.length ≤ Limits.maxLine

instance (sigil : Header.Sigil) (text line : Bytes) : Decidable (IsLine sigil text line) :=
  decidable_of_iff (line = sigil.byte :: text ++ Bytes.crlf ∧ Bytes.lf ∉ text ∧
      line.length ≤ Limits.maxLine)
    ⟨fun ⟨spelt, clean, bounded⟩ => ⟨spelt, clean, bounded⟩,
      fun ⟨spelt, clean, bounded⟩ => ⟨spelt, clean, bounded⟩⟩

/-- The bytes are one reply, to be found where `d` arrays are open. -/
inductive Derives (limits : Limits) : (d : Nat) → Bytes → Frame → Prop where
  | status {d : Nat} {text line : Bytes} (first : IsLine .status text line) :
      Derives limits d line (.status text)
  | error {d : Nat} {text line : Bytes} (first : IsLine .error text line) :
      Derives limits d line (.error text)
  | integer {d : Nat} {text line : Bytes} (first : IsLine .integer text line) :
      Derives limits d line (.integer (Decimal.readLenient text))
  | nullBulk {d : Nat} {text line : Bytes} (first : IsLine .bulk text line)
      (length : Denotes text (-1)) : Derives limits d line .nullBulk
  | bulk {d : Nat} {text line payload : Bytes} (first : IsLine .bulk text line)
      (length : Denotes text payload.length) (bounded : payload.length ≤ limits.bulk) :
      Derives limits d (line ++ payload ++ Bytes.crlf) (.bulk payload)
  | nullArray {d : Nat} {text line : Bytes} {count : Int} (first : IsLine .array text line)
      (denotes : Denotes text count) (negative : count < 0) : Derives limits d line .nullArray
  | array {d : Nat} {text line : Bytes} {items : List Reply} (first : IsLine .array text line)
      (count : Denotes text items.length) (bounded : items.length ≤ limits.array)
      (shallow : d < Limits.maxNesting)
      (each : ∀ item ∈ items, Derives limits (d + 1) item.bytes item.frame) :
      Derives limits d (line ++ items.flatMap Reply.bytes) (.array (items.map Reply.frame))

theorem IsLine.ne_nil {sigil : Header.Sigil} {text line : Bytes} (h : IsLine sigil text line) :
    line ≠ [] := by
  rw [h.spelt]
  exact List.cons_ne_nil _ _

/-- A reply has at least one byte. -/
theorem Derives.ne_nil {limits : Limits} {d : Nat} {p : Bytes} {f : Frame} (h : Derives limits d p f) :
    p ≠ [] := by
  cases h with
  | bulk first length bounded => simp [first.ne_nil]
  | array first count bounded shallow each => simp [first.ne_nil]
  | status first | error first | integer first | nullBulk first | nullArray first =>
    exact first.ne_nil

/-! ## What a first line promises -/

namespace Header

theorem Sigil.ofByte?_eq_some_iff {b : UInt8} {sigil : Sigil} :
    Sigil.ofByte? b = some sigil ↔ b = sigil.byte := by
  unfold Sigil.ofByte?
  refine ⟨?_, ?_⟩
  · intro h
    -- A branch that returns a kind has just compared the byte with that of the kind.
    repeat' split at h
    all_goals
      cases h
      try assumption
  · intro h
    subst h
    cases sigil <;> rfl

theorem Sigil.byte_ne_lf (sigil : Sigil) : sigil.byte ≠ Bytes.lf := by
  cases sigil <;> decide

theorem readNumber_eq_ok_iff {what : Measured} {text : Bytes} {v : Int} :
    readNumber what text = .ok v ↔ Denotes text v := by
  unfold readNumber
  refine ⟨?_, ?_⟩
  · intro h
    split at h
    · rename_i n hn
      cases h
      exact Decimal.readStrict_eq_some_iff.mp hn
    · cases h
  · intro h
    have hr : Decimal.inRange v = true := by
      obtain ⟨_, _, _, _, _, _, _, _, hr⟩ := h
      exact hr
    rw [Decimal.readStrict_of_denotes h]
    exact congrArg Except.ok (Decimal.toInt_ofInt hr)

theorem not_denotes_of_readNumber {what : Measured} {text : Bytes} {fault : ProtocolFault}
    (h : readNumber what text = .error fault) (v : Int) : ¬ Denotes text v := by
  intro hv
  rw [readNumber_eq_ok_iff.mpr hv] at h
  cases h

/-- A length of `-1` stands for no payload, and one within the limits promises a payload. -/
theorem ofLength_eq_ok_iff {limits : Limits} {text : Bytes} {header : Header} :
    ofLength limits text = .ok header ↔
      (Denotes text (-1) ∧ header = .complete .nullBulk) ∨
        ∃ n : Nat, Denotes text n ∧ n ≤ limits.bulk ∧ header = .payload n := by
  unfold ofLength
  cases hread : readNumber .bulk text with
  | error fault =>
    -- Not a numeral: neither side has anything to say.
    have hnone := not_denotes_of_readNumber hread
    refine ⟨?_, ?_⟩
    · intro h
      cases h
    · intro h
      rcases h with ⟨hv, _⟩ | ⟨n, hv, _⟩
      · exact absurd hv (hnone _)
      · exact absurd hv (hnone _)
  | ok v =>
    have hv : Denotes text v := readNumber_eq_ok_iff.mp hread
    -- The checks one after the other: null, negative, too large.
    show (if v = -1 then _ else _) = _ ↔ _
    refine ⟨?_, ?_⟩
    · intro h
      by_cases hnull : v = -1
      · rw [if_pos hnull] at h
        cases h
        exact Or.inl ⟨hnull ▸ hv, rfl⟩
      · rw [if_neg hnull] at h
        by_cases hneg : v < 0
        · rw [if_pos hneg] at h
          cases h
        · rw [if_neg hneg] at h
          by_cases hbig : limits.bulk < v.toNat
          · rw [if_pos hbig] at h
            cases h
          · rw [if_neg hbig] at h
            cases h
            exact Or.inr ⟨v.toNat, by rw [Int.toNat_of_nonneg (by omega)]; exact hv, by omega, rfl⟩
    · intro h
      rcases h with ⟨hw, rfl⟩ | ⟨n, hw, hn, rfl⟩
      · rw [hv.unique hw, if_pos rfl]
      · rw [hv.unique hw, if_neg (by omega), if_neg (by omega), Int.toNat_natCast,
          if_neg (by omega)]

/-- A negative count stands for no array, and one within the limits promises that many items. -/
theorem ofCount_eq_ok_iff {limits : Limits} {text : Bytes} {header : Header} :
    ofCount limits text = .ok header ↔
      (∃ v, Denotes text v ∧ v < 0 ∧ header = .complete .nullArray) ∨
        ∃ n : Nat, Denotes text n ∧ n ≤ limits.array ∧ header = .items n := by
  unfold ofCount
  cases hread : readNumber .array text with
  | error fault =>
    have hnone := not_denotes_of_readNumber hread
    refine ⟨?_, ?_⟩
    · intro h
      cases h
    · intro h
      rcases h with ⟨v, hv, _⟩ | ⟨n, hv, _⟩
      · exact absurd hv (hnone _)
      · exact absurd hv (hnone _)
  | ok v =>
    have hv : Denotes text v := readNumber_eq_ok_iff.mp hread
    show (if v < 0 then _ else _) = _ ↔ _
    refine ⟨?_, ?_⟩
    · intro h
      by_cases hneg : v < 0
      · rw [if_pos hneg] at h
        cases h
        exact Or.inl ⟨v, hv, hneg, rfl⟩
      · rw [if_neg hneg] at h
        by_cases hbig : limits.array < v.toNat
        · rw [if_pos hbig] at h
          cases h
        · rw [if_neg hbig] at h
          cases h
          exact Or.inr ⟨v.toNat, by rw [Int.toNat_of_nonneg (by omega)]; exact hv, by omega, rfl⟩
    · intro h
      rcases h with ⟨w, hw, hneg, rfl⟩ | ⟨n, hw, hn, rfl⟩
      · rw [hv.unique hw, if_pos hneg]
      · rw [hv.unique hw, if_neg (by omega), Int.toNat_natCast, if_neg (by omega)]

end Header

end StoreClient
