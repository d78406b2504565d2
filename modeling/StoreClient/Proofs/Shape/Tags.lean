import StoreClient.Shape
import StoreClient.Value.Access

/-!
# `StoreClient/Proofs/Shape/Tags.lean` — the kind of value that a shape makes

A caller who decodes a reply has three things to tell apart: the remote side refused, it has no such thing,
or there is data. Which frame means which is settled before the shape is looked at, so no shape can take
the one for the other; and **the data that a shape makes has one tag** (`Shape.tag`), the same for every
frame. A frame that the shape does not have is a mismatch, which has the tag of a refusal and no message.

An accessor reads one tag, and there are none but those listed as `Value.Accessor`. So the accessor for the
tag of a shape either has the data or names a refusal or an absence (`Outcome.accessed`): data under another
tag is not among what it can meet.
-/

set_option autoImplicit false

namespace StoreClient

/-! ## Accessors -/

namespace Value

/-- The accessors, each with the tag that it reads: on what `hold` puts into a value, the accessor returns
what `give` makes of it. -/
inductive Accessor : {α β : Type} → Tag → (Value → Except Error β) → (α → Value) → (α → β) → Prop where
  | integer : Accessor .integer asInteger .integer id
  | boolean : Accessor .boolean asBoolean .boolean id
  | double : Accessor .double asDouble .double id
  | bytes : Accessor .bulk asBytes .bulk id
  | text : Accessor .bulk asText .bulk fun bytes => String.ofList (Utf8.lossy bytes)
  | array : Accessor .array asArray .array id
  | hash : Accessor .hash asHash .hash id
  | type : Accessor .type asType .type id

variable {α β : Type} {tag : Tag} {access : Value → Except Error β} {hold : α → Value} {give : α → β}
  {v : Value}

theorem Accessor.own (h : Accessor tag access hold give) (hv : v.tag = tag) :
    ∃ a, v = hold a ∧ access v = .ok (give a) := by
  cases h <;> cases v <;> first | exact ⟨_, rfl, rfl⟩ | cases hv

theorem Accessor.other (h : Accessor tag access hold give) (hv : v.tag ≠ tag) :
    access v = .error (.typeMismatch tag v.tag) := by
  cases h <;> cases v <;> first | rfl | exact absurd rfl hv

end Value

namespace Shape

/-! ## One tag for each shape -/

/-- The tag of the data in replies of the shape. -/
def tag : Shape → Tag
  | .status | .flag => .boolean
  | .line | .bulk => .bulk
  | .queued => .queued
  | .integer => .integer
  | .double => .double
  | .list => .array
  | .entries | .valuesOf _ | .info => .hash
  | .keyType => .type

variable {shape : Shape} {frame : Frame} {v : Value}

/-- No shape has data under the tags that all shapes share. -/
theorem tag_ne (shape : Shape) : shape.tag ≠ .error ∧ shape.tag ≠ .absent := by
  cases shape <;> simp [tag]

theorem tag_eq_queued_iff : shape.tag = .queued ↔ shape = .queued := by
  cases shape <;> simp [tag]

theorem tag_of_read? (h : shape.read? frame = some v) : v.tag = shape.tag := by
  unfold read? at h
  split at h <;> grind [tag, Value.tag, Option.map_eq_some_iff]

/-! ## The outcomes of decoding -/

/-- Two frames are settled under every shape, and all others are left to the shape. -/
theorem decode_eq (shape : Shape) (notError : ∀ line, frame ≠ .error line)
    (present : frame ≠ .nullBulk) : shape.decode frame = (shape.read? frame).getD .mismatch := by
  cases frame with
  | error line => exact absurd rfl (notError line)
  | nullBulk => exact absurd rfl present
  | _ => rfl

/-- What a frame is to a caller who expects the shape. -/
inductive Outcome (shape : Shape) : Frame → Value → Prop where
  | refused (line : Bytes) :
      Outcome shape (.error line) (.error (some (String.ofList (Utf8.lossy line))))
  | absent : Outcome shape .nullBulk .absent
  | mismatch {frame : Frame} (notError : ∀ line, frame ≠ .error line) (present : frame ≠ .nullBulk)
      (found : shape.read? frame = none) : Outcome shape frame .mismatch
  | data {frame : Frame} {v : Value} (notError : ∀ line, frame ≠ .error line)
      (present : frame ≠ .nullBulk) (found : shape.read? frame = some v) : Outcome shape frame v

theorem outcome_decode (shape : Shape) (frame : Frame) : Outcome shape frame (shape.decode frame) := by
  by_cases notError : ∀ line, frame ≠ .error line
  · by_cases present : frame = .nullBulk
    · subst present
      exact .absent
    · rw [decode_eq shape notError present]
      cases found : shape.read? frame with
      | none => exact .mismatch notError present found
      | some v => exact .data notError present found
  · obtain ⟨line, rfl⟩ : ∃ line, frame = .error line := by simpa using notError
    exact .refused line

/-- Only one status is an acknowledgement, and to one shape only. -/
theorem read?_eq_queued_iff :
    shape.read? frame = some .queued ↔ shape = .queued ∧ frame = .status acknowledgement := by
  refine ⟨?_, ?_⟩
  · intro h
    have hshape : shape = .queued := tag_eq_queued_iff.mp (tag_of_read? h).symm
    subst hshape
    cases frame with
    | status text => simpa [read?] using h
    | _ => cases h
  · rintro ⟨rfl, rfl⟩
    simp [read?]

/-- An accessor had the data, or it named what was there instead of data. -/
def Told {α β : Type} (expected : Tag) (access : Value → Except Error β) (hold : α → Value) (give : α → β)
    (v : Value) : Prop :=
  (∃ a, v = hold a ∧ access v = .ok (give a)) ∨
    (v.tag = .error ∨ v.tag = .absent) ∧ access v = .error (.typeMismatch expected v.tag)

/-- The value is what the frame means under the shape, and of no type but that of the shape. -/
structure InOwnType (shape : Shape) (frame : Frame) (value : Value) : Prop where
  refused : ∀ message, value = .error (some message) ↔
    ∃ line, frame = .error line ∧ message = String.ofList (Utf8.lossy line)
  absent : value = .absent ↔ frame = .nullBulk
  otherwise : (∀ line, frame ≠ .error line) → frame ≠ .nullBulk →
    value = .error none ∨ value.tag = shape.tag
  accessed : ∀ {α β : Type} {access : Value → Except Error β} {hold : α → Value} {give : α → β},
    Value.Accessor shape.tag access hold give → Told shape.tag access hold give value
  queued : value = .queued ↔ shape = .queued ∧ frame = .status acknowledgement

theorem Outcome.tag (h : Outcome shape frame v) :
    v.tag = shape.tag ∨ v.tag = .error ∨ v.tag = .absent := by
  cases h with
  | refused line => exact .inr (.inl rfl)
  | absent => exact .inr (.inr rfl)
  | mismatch => exact .inr (.inl rfl)
  | data _ _ found => exact .inl (tag_of_read? found)

theorem Outcome.accessed {α β : Type} {access : Value → Except Error β} {hold : α → Value}
    {give : α → β} (h : Outcome shape frame v) (accessor : Value.Accessor shape.tag access hold give) :
    Told shape.tag access hold give v := by
  rcases h.tag with own | other
  · exact .inl (accessor.own own)
  · refine .inr ⟨other, accessor.other ?_⟩
    obtain ⟨notError, notAbsent⟩ := tag_ne shape
    rcases other with h | h
    · exact fun hv => notError (hv.symm.trans h)
    · exact fun hv => notAbsent (hv.symm.trans h)

theorem Outcome.inOwnType (h : Outcome shape frame v) : InOwnType shape frame v where
  refused message := by
    cases h with
    | refused line => simp [eq_comm]
    | absent => simp
    | mismatch notError present found => simp [Value.mismatch, notError]
    | data notError present found =>
      have hv : v ≠ .error (some message) := by
        rintro rfl
        exact (tag_ne shape).1 (tag_of_read? found).symm
      simp [hv, notError]
  absent := by
    cases h with
    | refused line => simp
    | absent => simp
    | mismatch notError present found => simp [Value.mismatch, present]
    | data notError present found =>
      have hv : v ≠ .absent := by
        rintro rfl
        exact (tag_ne shape).2 (tag_of_read? found).symm
      simp [hv, present]
  otherwise notError present := by
    cases h with
    | refused line => exact absurd rfl (notError line)
    | absent => exact absurd rfl present
    | mismatch => exact .inl rfl
    | data _ _ found => exact .inr (tag_of_read? found)
  accessed := h.accessed
  queued := by
    cases h with
    | refused line => simp
    | absent => simp
    | mismatch notError present found => simp [← read?_eq_queued_iff, found, Value.mismatch]
    | data notError present found => rw [← read?_eq_queued_iff, found, Option.some.injEq]

end Shape
end StoreClient
