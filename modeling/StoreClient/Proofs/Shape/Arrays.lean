import StoreClient.Proofs.Shape.Tags
import StoreClient.Proofs.Value.Dictionary

/-!
# `StoreClient/Proofs/Shape/Arrays.lean` — what is made of an array

Three shapes are those of arrays: a list of payloads, keys and values by turns, and the values of keys that
were asked for. Under all three **one item of the wrong kind spoils the reply**, wherever it stands, and what
was gathered before it is dropped. Otherwise nothing is: a list has the payloads in their order
(`arrays_decoded_faithfully`), and a dictionary has for each key the value from the last place at which the
key stands.

The values of given keys come without the keys (`OwnValues`). Place is all that ties the one to the other, so
a null item, which has no value, still takes up its place.
-/

set_option autoImplicit false

namespace StoreClient

open Dictionary (insertAll)

/-- A payload or a null payload: what can stand for the value of a key. -/
def Frame.IsValue (item : Frame) : Prop :=
  item = .nullBulk ∨ ∃ payload, item = .bulk payload

namespace Shape

variable {frame : Frame} {payloads : List Bytes} {keys : List Bytes} {items : List Frame}
  {d : Dictionary} {k v : Bytes}

theorem payload?_eq_some_iff : frame.payload? = some v ↔ frame = .bulk v := by
  cases frame <;> simp [Frame.payload?]

/-! ## Lists -/

theorem mapM_payload?_eq_some_iff :
    items.mapM Frame.payload? = some payloads ↔ items = payloads.map .bulk := by
  induction items generalizing payloads with
  | nil => cases payloads <;> simp
  | cons item items ih =>
    rw [List.mapM_cons]
    simp only [bind, Option.bind_eq_some_iff, pure, Option.some.injEq, payload?_eq_some_iff, ih]
    refine ⟨?_, ?_⟩
    · rintro ⟨payload, rfl, payloads, rfl, rfl⟩
      rfl
    · intro h
      cases payloads with
      | nil => cases h
      | cons payload payloads =>
        obtain ⟨rfl, rfl⟩ := List.cons.inj h
        exact ⟨payload, rfl, payloads, rfl, rfl⟩

theorem payloads?_eq_some_iff :
    payloads? frame = some payloads ↔
      frame = .nullArray ∧ payloads = [] ∨ frame = .array (payloads.map .bulk) := by
  cases frame with
  | array items => simp [payloads?, mapM_payload?_eq_some_iff]
  | nullArray => simp [payloads?, eq_comm]
  | _ => simp [payloads?]

/-! ## Keys and values by turns -/

/-- The elements in pairs. -/
def byTurns : List Bytes → List (Bytes × Bytes)
  | [] | [_] => []
  | key :: value :: rest => (key, value) :: byTurns rest

theorem addEntries_eq_some_iff {elements : List Bytes} {d' : Dictionary} :
    addEntries d elements = some d' ↔
      Even elements.length ∧ insertAll d (byTurns elements) = d' := by
  fun_induction addEntries d elements with
  | case1 d => simp [byTurns, insertAll]
  | case2 d element => simp
  | case3 d key value rest ih =>
    rw [ih]
    simp [Nat.even_add_one, byTurns, insertAll]

theorem getElem?_byTurns {elements : List Bytes} {i : Nat} :
    (byTurns elements)[i]? = some (k, v) ↔
      elements[2 * i]? = some k ∧ elements[2 * i + 1]? = some v := by
  induction elements using byTurns.induct generalizing i with
  | case1 => simp [byTurns]
  | case2 element => simp [byTurns]
  | case3 key value rest ih =>
    cases i with
    | zero => simp [byTurns]
    | succ i => simpa [byTurns, Nat.mul_succ] using ih

/-- Behind every key there is a value. -/
theorem exists_getElem?_byTurns {elements : List Bytes} {i : Nat} (h : Even elements.length)
    (hk : elements[2 * i]? = some k) : ∃ v, (byTurns elements)[i]? = some (k, v) := by
  obtain ⟨n, hn⟩ := h
  obtain ⟨hi, -⟩ := List.getElem?_eq_some_iff.mp hk
  exact ⟨_, getElem?_byTurns.mpr ⟨hk, List.getElem?_eq_getElem (by omega)⟩⟩

theorem mem_insertAll_byTurns {elements : List Bytes} (h : Even elements.length) :
    k ∈ insertAll ∅ (byTurns elements) ↔ ∃ i : Nat, elements[2 * i]? = some k := by
  rw [← List.filterMap_some (l := byTurns elements), Dictionary.mem_insertAll_filterMap]
  refine ⟨?_, ?_⟩
  · rintro ⟨i, _, v, hi, ⟨⟩⟩
    exact ⟨i, (getElem?_byTurns.mp hi).1⟩
  · rintro ⟨i, hk⟩
    obtain ⟨v, hi⟩ := exists_getElem?_byTurns h hk
    exact ⟨i, _, v, hi, rfl⟩

/-- The dictionary has the keys that stand at the even places, each with the element behind the last place at
which it stands, and so as many entries as there are different keys. -/
structure HoldsByTurns (d : Dictionary) (elements : List Bytes) : Prop where
  present : ∀ k, k ∈ d ↔ ∃ i : Nat, elements[2 * i]? = some k
  last : ∀ k v, d[k]? = some v ↔ ∃ i : Nat, elements[2 * i]? = some k ∧
    elements[2 * i + 1]? = some v ∧ ∀ j : Nat, i < j → elements[2 * j]? ≠ some k
  size : d.size = {k | ∃ i : Nat, elements[2 * i]? = some k}.ncard

theorem holdsByTurns {elements : List Bytes} (h : Even elements.length) :
    HoldsByTurns (insertAll ∅ (byTurns elements)) elements where
  present := fun k => mem_insertAll_byTurns h
  last := by
    intro k v
    rw [← List.filterMap_some (l := byTurns elements), Dictionary.getElem?_insertAll_filterMap]
    refine ⟨?_, ?_⟩
    · rintro ⟨i, _, hi, ⟨⟩, hlater⟩
      obtain ⟨hkey, hvalue⟩ := getElem?_byTurns.mp hi
      refine ⟨i, hkey, hvalue, ?_⟩
      intro j hj hkey'
      obtain ⟨w, hj'⟩ := exists_getElem?_byTurns h hkey'
      exact hlater j _ hj hj' w rfl
    · rintro ⟨i, hkey, hvalue, hlater⟩
      refine ⟨i, _, getElem?_byTurns.mpr ⟨hkey, hvalue⟩, rfl, ?_⟩
      rintro j _ hj hj' w ⟨⟩
      exact hlater j hj (getElem?_byTurns.mp hj').1
  size := by
    rw [Dictionary.size_eq_ncard]
    simp only [mem_insertAll_byTurns h]

/-! ## What is made of a frame -/

/-- What the shapes of arrays make of a frame that is neither an error nor a null payload. -/
structure ArraysFaithful (frame : Frame) : Prop where
  list : ∀ payloads, Shape.list.decode frame = .array payloads ↔
    frame = .nullArray ∧ payloads = [] ∨ frame = .array (payloads.map .bulk)
  listOtherwise : (∀ payloads, Shape.list.decode frame ≠ .array payloads) →
    Shape.list.decode frame = .error none
  entries : (∃ d, Shape.entries.decode frame = .hash d) ↔
    ∃ elements, Shape.list.decode frame = .array elements ∧ Even elements.length
  holds : ∀ d elements, Shape.entries.decode frame = .hash d →
    Shape.list.decode frame = .array elements → HoldsByTurns d elements
  entriesOtherwise : (∀ d, Shape.entries.decode frame ≠ .hash d) →
    Shape.entries.decode frame = .error none

section Frames

variable (notError : ∀ line, frame ≠ .error line) (present : frame ≠ .nullBulk)
include notError present

theorem decode_list : Shape.list.decode frame = ((payloads? frame).map Value.array).getD .mismatch := by
  rw [decode_eq _ notError present]
  cases frame <;> rfl

theorem decode_entries : Shape.entries.decode frame =
    (((payloads? frame).bind (addEntries ∅)).map Value.hash).getD .mismatch := by
  rw [decode_eq _ notError present]
  cases frame <;> rfl

theorem decode_list_eq_array_iff :
    Shape.list.decode frame = .array payloads ↔ payloads? frame = some payloads := by
  rw [decode_list notError present]
  cases payloads? frame <;> simp [Value.mismatch]

theorem decode_entries_eq_hash_iff :
    Shape.entries.decode frame = .hash d ↔ ∃ elements, payloads? frame = some elements ∧
      Even elements.length ∧ insertAll ∅ (byTurns elements) = d := by
  have hmade : ∀ made : Option Dictionary,
      (made.map Value.hash).getD .mismatch = .hash d ↔ made = some d := by
    intro made
    cases made <;> simp [Value.mismatch]
  rw [decode_entries notError present, hmade, Option.bind_eq_some_iff]
  simp only [addEntries_eq_some_iff]

end Frames

/-- What is not made leaves a mismatch. -/
theorem getD_mismatch_of_ne {α : Type} {made : Option α} {tag : α → Value}
    (h : ∀ a, (made.map tag).getD .mismatch ≠ tag a) : (made.map tag).getD .mismatch = .error none := by
  cases made with
  | none => rfl
  | some a => exact absurd rfl (h a)

/-- **Decoding an array loses, invents and reorders nothing.** -/
theorem arrays_decoded_faithfully (notError : ∀ line, frame ≠ .error line)
    (present : frame ≠ .nullBulk) : ArraysFaithful frame where
  list := fun _ => (decode_list_eq_array_iff notError present).trans payloads?_eq_some_iff
  listOtherwise := by
    rw [decode_list notError present]
    exact getD_mismatch_of_ne
  entries := by
    simp only [decode_list_eq_array_iff notError present, decode_entries_eq_hash_iff notError present]
    refine ⟨?_, ?_⟩
    · rintro ⟨_, elements, helements, heven, -⟩
      exact ⟨elements, helements, heven⟩
    · rintro ⟨elements, helements, heven⟩
      exact ⟨_, elements, helements, heven, rfl⟩
  holds := by
    intro d elements hhash harray
    rw [decode_list_eq_array_iff notError present] at harray
    obtain ⟨_, helements, heven, rfl⟩ := (decode_entries_eq_hash_iff notError present).mp hhash
    obtain rfl := Option.some.inj (helements.symm.trans harray)
    exact holdsByTurns heven
  entriesOtherwise := by
    rw [decode_entries notError present]
    exact getD_mismatch_of_ne

/-- Two keys by turns with their values, and the first of them once more. -/
def repeatedKey : List Bytes := [[97], [1], [98], [2], [97], [3]]

theorem arrays_decoded_faithfully_repeatedKey :
    (∀ line, Frame.array (repeatedKey.map .bulk) ≠ .error line) ∧
      Frame.array (repeatedKey.map .bulk) ≠ .nullBulk ∧
      ArraysFaithful (.array (repeatedKey.map .bulk)) ∧
      ∃ d, Shape.entries.decode (.array (repeatedKey.map .bulk)) = .hash d ∧
        d[([97] : Bytes)]? = some [3] := by
  have notError : ∀ line, Frame.array (repeatedKey.map .bulk) ≠ .error line := by simp
  have present : Frame.array (repeatedKey.map .bulk) ≠ .nullBulk := by simp
  have hfaithful := arrays_decoded_faithfully notError present
  have hlist := (hfaithful.list repeatedKey).mpr (.inr rfl)
  obtain ⟨d, hd⟩ := hfaithful.entries.mpr ⟨_, hlist, by decide⟩
  refine ⟨notError, present, hfaithful, d, hd, ?_⟩
  refine ((hfaithful.holds d _ hd hlist).last _ _).mpr ⟨2, rfl, rfl, ?_⟩
  intro j hj
  rw [List.getElem?_eq_none (by simp [repeatedKey]; omega)]
  simp

/-! ## The values of given keys -/

/-- The keys at whose places there is a value, each with that value. -/
def held (keys : List Bytes) (items : List Frame) : List (Bytes × Bytes) :=
  (keys.zip items).filterMap fun p => p.2.payload?.map (p.1, ·)

theorem addValues_of_values (hlen : items.length = keys.length)
    (hitems : ∀ item ∈ items, item.IsValue) :
    addValues d keys items = some (insertAll d (held keys items)) := by
  induction keys generalizing d items with
  | nil =>
    obtain rfl := List.length_eq_zero_iff.mp hlen
    rfl
  | cons key keys ih =>
    obtain ⟨item, items, rfl⟩ := List.exists_cons_of_length_eq_add_one hlen
    have hlen' : items.length = keys.length := Nat.succ.inj hlen
    have hitems' : ∀ item ∈ items, item.IsValue := fun item h => hitems item (List.mem_cons_of_mem _ h)
    rcases hitems item List.mem_cons_self with rfl | ⟨value, rfl⟩
    · exact ih hlen' hitems'
    · exact ih hlen' hitems'

/-- Whatever was gathered before it, a bad item leaves nothing, and so does an item too many or too few. -/
theorem values_of_addValues {d' : Dictionary} (h : addValues d keys items = some d') :
    items.length = keys.length ∧ ∀ item ∈ items, item.IsValue := by
  fun_induction addValues d keys items with
  | case1 d => simp
  | case2 d key keys value items ih =>
    obtain ⟨hlen, hitems⟩ := ih h
    exact ⟨by simp [hlen], List.forall_mem_cons.mpr ⟨.inr ⟨value, rfl⟩, hitems⟩⟩
  | case3 d key keys items ih =>
    obtain ⟨hlen, hitems⟩ := ih h
    exact ⟨by simp [hlen], List.forall_mem_cons.mpr ⟨.inl rfl, hitems⟩⟩
  | case4 => cases h

theorem getElem?_held_zip {i : Nat} {p : Bytes × Frame} :
    (keys.zip items)[i]? = some p ∧ p.2.payload?.map (p.1, ·) = some (k, v) ↔
      p = (k, .bulk v) ∧ keys[i]? = some k ∧ items[i]? = some (.bulk v) := by
  obtain ⟨key, item⟩ := p
  simp only [List.getElem?_zip_eq_some, Option.map_eq_some_iff, payload?_eq_some_iff, Prod.mk.injEq]
  refine ⟨?_, ?_⟩
  · rintro ⟨⟨hkey, hitem⟩, value, rfl, rfl, rfl⟩
    exact ⟨⟨rfl, rfl⟩, hkey, hitem⟩
  · rintro ⟨⟨rfl, rfl⟩, hkey, hitem⟩
    exact ⟨⟨hkey, hitem⟩, v, rfl, rfl, rfl⟩

/-- The dictionary has the keys that have a value at one of their places, each with the value at the last such
place. -/
structure HoldsOwn (d : Dictionary) (keys : List Bytes) (items : List Frame) : Prop where
  present : ∀ k, k ∈ d ↔ ∃ (i : Nat) (v : Bytes), keys[i]? = some k ∧ items[i]? = some (.bulk v)
  last : ∀ k v, d[k]? = some v ↔ ∃ i : Nat, keys[i]? = some k ∧ items[i]? = some (.bulk v) ∧
    ∀ (j : Nat) w, i < j → keys[j]? = some k → items[j]? ≠ some (.bulk w)

theorem holdsOwn (keys : List Bytes) (items : List Frame) :
    HoldsOwn (insertAll ∅ (held keys items)) keys items where
  present := by
    intro k
    unfold held
    rw [Dictionary.mem_insertAll_filterMap]
    simp only [getElem?_held_zip]
    simp
  last := by
    intro k v
    unfold held
    rw [Dictionary.getElem?_insertAll_filterMap]
    refine ⟨?_, ?_⟩
    · rintro ⟨i, p, hi, hread, hlater⟩
      obtain ⟨-, hkey, hitem⟩ := getElem?_held_zip.mp ⟨hi, hread⟩
      refine ⟨i, hkey, hitem, ?_⟩
      intro j w hj hkey' hitem'
      obtain ⟨hj', hread'⟩ := getElem?_held_zip.mpr ⟨rfl, hkey', hitem'⟩
      exact hlater j _ hj hj' w hread'
    · rintro ⟨i, hkey, hitem, hlater⟩
      obtain ⟨hi, hread⟩ := getElem?_held_zip.mpr ⟨rfl, hkey, hitem⟩
      refine ⟨i, _, hi, hread, ?_⟩
      intro j p hj hj' w hread'
      obtain ⟨-, hkey', hitem'⟩ := getElem?_held_zip.mp ⟨hj', hread'⟩
      exact hlater j w hj hkey' hitem'

/-- The value is what a frame says about the values of keys. -/
structure OwnValues (keys : List Bytes) (frame : Frame) (value : Value) : Prop where
  values : ∀ items, frame = .array items → items.length = keys.length →
    (∀ item ∈ items, item.IsValue) → ∃ d, value = .hash d ∧ HoldsOwn d keys items
  refused : ∀ line, frame = .error line → value = .error (some (String.ofList (Utf8.lossy line)))
  absent : frame = .nullBulk → value = .absent
  otherwise : (∀ line, frame ≠ .error line) → frame ≠ .nullBulk →
    (∀ items, frame = .array items → items.length = keys.length → ¬ ∀ item ∈ items, item.IsValue) →
    value = .error none

theorem ownValues_decode (nonempty : keys ≠ []) (frame : Frame) :
    OwnValues keys frame ((Shape.valuesOf keys).decode frame) where
  values := by
    rintro items rfl hlen hitems
    refine ⟨_, ?_, holdsOwn keys items⟩
    simp [Shape.decode, Shape.read?, nonempty, addValues_of_values hlen hitems]
  refused := by
    rintro line rfl
    rfl
  absent := by
    rintro rfl
    rfl
  otherwise := by
    intro notError present hbad
    rw [decode_eq _ notError present]
    cases frame with
    | array items =>
      cases hadd : addValues ∅ keys items with
      | none => simp [Shape.read?, hadd, Value.mismatch]
      | some d =>
        obtain ⟨hlen, hitems⟩ := values_of_addValues hadd
        exact absurd hitems (hbad items rfl hlen)
    | _ => rfl

end Shape
end StoreClient
