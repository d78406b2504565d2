import StoreClient.Command.Encoding
import StoreClient.Proofs.Reply.Reader

/-!
# `StoreClient/Proofs/Command/Encoding.lean` — commands can be read back

An encoded command is a reply: an array of payloads, one for each part. So the reader of replies
is also a reader of commands, and what the grammar says about replies settles where a command ends. The
parts are never looked at; everything rests on the decimal lengths before them, which are read as they
were written (`Decimal.denotes_ofNat`).

**Concatenated commands come apart again** (`times_read_encode`), in any number and in front of any bytes, so
no two lists of commands have the same bytes (`flatMap_encode_injective`). And the buffer of a pipeline, which
is filled piece by piece, holds exactly the encodings one after the other (`encodeOnto_eq`).

How long a command is going to be is counted without writing it: headers, parts and line ends are added up,
and the digits of a number are found by dividing. **What was counted is what is written**
(`encoded_size_exact`).
-/

set_option autoImplicit false

namespace StoreClient

namespace Command

open StoreClient.Action

/-! ## The buffer -/

theorem foldl_putPart (buffer : Bytes) (parts : List Bytes) :
    parts.foldl putPart buffer = buffer ++ parts.flatMap encodePart := by
  induction parts generalizing buffer with
  | nil => simp
  | cons part parts ih =>
    rw [List.foldl_cons, ih, putPart, List.flatMap_cons, encodePart]
    simp only [List.append_assoc]

/-- What is put behind a buffer piece by piece is the encoded command. -/
theorem encodeOnto_eq (buffer : Bytes) (c : Command) : c.encodeOnto buffer = buffer ++ c.encode := by
  rw [encodeOnto, foldl_putPart, encode, List.append_assoc]

/-! ## The size -/

theorem length_header (sigil : UInt8) (n : Nat) : (header sigil n).length = headerSize n := by
  simp only [header, headerSize, Bytes.crlf, List.length_append, List.length_cons, List.length_nil,
    Decimal.length_ofNat]
  omega

theorem length_encodePart (part : Bytes) : (encodePart part).length = partSize part := by
  simp only [encodePart, partSize, Bytes.crlf, List.length_append, List.length_cons, List.length_nil,
    length_header]

/-- Sizes are added onto a running total as parts are put behind a buffer. -/
theorem foldl_partSize (total : Nat) (parts : List Bytes) :
    parts.foldl (fun size part => size + partSize part) total =
      total + (parts.flatMap encodePart).length := by
  induction parts generalizing total with
  | nil => rfl
  | cons part parts ih =>
    rw [List.foldl_cons, ih, List.flatMap_cons, List.length_append, length_encodePart, Nat.add_assoc]

theorem encodedSize_eq (c : Command) : c.encodedSize = c.encode.length := by
  rw [encodedSize, foldl_partSize, encode, List.length_append, length_header]

/-- **The size that is counted in advance is the size of what is written**, for every command: by itself, and
behind what a buffer already holds. -/
theorem encoded_size_exact (c : Command) :
    c.encodedSize = c.encode.length ∧
      ∀ buffer : Bytes, (c.encodeOnto buffer).length = buffer.length + c.encodedSize := by
  refine ⟨encodedSize_eq c, ?_⟩
  intro buffer
  rw [encodeOnto_eq, List.length_append, encodedSize_eq]

/-! ## A command is a reply -/

/-- The reply that a command looks like. -/
def frame (c : Command) : Frame :=
  .array (c.parts.map Frame.bulk)

/-- The number of parts and the length of each are numbers that 64 bits hold. -/
structure Countable (c : Command) : Prop where
  size : c.size ≤ 9223372036854775807
  part : ∀ part ∈ c.parts, part.length ≤ 9223372036854775807

/-- The command is within the limits of a reader. -/
structure Fits (limits : Limits) (c : Command) : Prop extends Countable c where
  size_le : c.size ≤ limits.array
  part_le : ∀ part ∈ c.parts, part.length ≤ limits.bulk

/-- A header is a line that the reader accepts: no length has more than nineteen digits, so it is far
from the longest line there may be. -/
theorem isLine_header (sigil : Header.Sigil) {n : Nat} (h : n ≤ 9223372036854775807) :
    IsLine sigil (Decimal.ofNat n) (header sigil.byte n) := by
  refine ⟨rfl, (Decimal.denotes_ofNat h).lf_not_mem, ?_⟩
  have hwidth : Decimal.width n ≤ 19 := Decimal.width_le (by omega) (by
    show n < 10000000000000000000
    omega)
  rw [length_header, headerSize, Limits.maxLine]
  omega

theorem derives_part {limits : Limits} {part : Bytes} (d : Nat)
    (hcount : part.length ≤ 9223372036854775807) (hlimit : part.length ≤ limits.bulk) :
    Derives limits d (encodePart part) (.bulk part) :=
  .bulk (isLine_header .bulk hcount) (Decimal.denotes_ofNat hcount) hlimit

/-- The encoded command is one reply from its first to its last byte. -/
theorem derives_encode {limits : Limits} {c : Command} (h : c.Fits limits) :
    Derives limits 0 c.encode c.frame := by
  let items : List Reply := c.parts.map fun part => ⟨encodePart part, .bulk part⟩
  have hlen : items.length = c.size := by simp [items, size]
  have hbytes : items.flatMap Reply.bytes = c.parts.flatMap encodePart := by
    simp [items, List.flatMap_map]
  have hframes : items.map Reply.frame = c.parts.map Frame.bulk := by
    simp [items]
  have harray : Derives limits 0 (header arraySigil c.size ++ items.flatMap Reply.bytes)
      (.array (items.map Reply.frame)) := by
    refine .array (isLine_header .array h.size) ?_ ?_ (by decide) ?_
    · rw [hlen]
      exact Decimal.denotes_ofNat h.size
    · rw [hlen]
      exact h.size_le
    · intro item hitem
      obtain ⟨part, hpart, rfl⟩ := List.mem_map.mp hitem
      exact derives_part 1 (h.part part hpart) (h.part_le part hpart)
  rw [hbytes, hframes] at harray
  exact harray

/-- A number of readings takes as many commands off the front, and nothing of what follows them. -/
theorem times_read_encode {limits : Limits} {commands : List Command}
    (h : ∀ c ∈ commands, c.Fits limits) (rest : Bytes) (failure : Option IoError) :
    times (Frame.read limits) commands.length
        (⟨commands.flatMap encode ++ rest, failure⟩ : Input) =
      .ok (commands.map frame) ⟨rest, failure⟩ := by
  rw [times_eq_ok_iff fun s t f => Frame.read_eq_ok_iff]
  refine ⟨commands.map fun c => ⟨c.encode, c.frame⟩, by simp, by simp, ?_, ?_⟩
  · rw [Delivers.input_iff]
    simp [List.flatMap_map]
  · intro r hr
    obtain ⟨c, hc, rfl⟩ := List.mem_map.mp hr
    exact derives_encode (h c hc)

/-! ## No two lists of commands have the same bytes -/

theorem frame_injective {c d : Command} (h : c.frame = d.frame) : c = d := by
  obtain ⟨keyword, arguments⟩ := c
  obtain ⟨keyword', arguments'⟩ := d
  have hparts : keyword :: arguments = keyword' :: arguments' :=
    (List.map_inj_right fun _ _ hq => Frame.bulk.inj hq).mp (Frame.array.inj h)
  obtain ⟨rfl, rfl⟩ := List.cons.inj hparts
  rfl

theorem encode_ne_nil (c : Command) : c.encode ≠ [] := by
  simp [encode, header]

/-- Only no commands at all have no bytes. -/
theorem flatMap_encode_eq_nil_iff {α : Type} {command : α → Command} {as : List α} :
    (as.flatMap fun a => (command a).encode) = [] ↔ as = [] := by
  cases as with
  | nil => simp
  | cons a as => simp [encode_ne_nil]

/-- Limits that let every command through whose numbers can be written down. -/
theorem fits_of_countable {c : Command} (h : c.Countable) :
    c.Fits ⟨9223372036854775807, 9223372036854775807⟩ :=
  ⟨h, h.size, h.part⟩

/-- The first command and what follows it can be told from the bytes. -/
theorem encode_append_inj {c d : Command} {x y : Bytes} (hc : c.Countable) (hd : d.Countable)
    (h : c.encode ++ x = d.encode ++ y) : c = d ∧ x = y := by
  have hreadc := (Frame.read_input_eq_ok_iff x none).mpr (derives_encode (fits_of_countable hc))
  have hreadd := (Frame.read_input_eq_ok_iff y none).mpr (derives_encode (fits_of_countable hd))
  rw [h, hreadd] at hreadc
  obtain ⟨hframe, hrest⟩ := EStateM.Result.ok.inj hreadc
  exact ⟨(frame_injective hframe).symm, (congrArg Input.rest hrest).symm⟩

theorem flatMap_encode_injective {cs ds : List Command} (hcs : ∀ c ∈ cs, c.Countable)
    (hds : ∀ d ∈ ds, d.Countable) (h : cs.flatMap encode = ds.flatMap encode) : cs = ds := by
  induction cs generalizing ds with
  | nil =>
    -- If one list ends, the other does too: no command is without bytes.
    cases ds with
    | nil => rfl
    | cons d ds =>
      rw [List.flatMap_nil, List.flatMap_cons] at h
      exact absurd (List.append_eq_nil_iff.mp h.symm).1 d.encode_ne_nil
  | cons c cs ih =>
    cases ds with
    | nil =>
      rw [List.flatMap_nil, List.flatMap_cons] at h
      exact absurd (List.append_eq_nil_iff.mp h).1 c.encode_ne_nil
    | cons d ds =>
      rw [List.flatMap_cons, List.flatMap_cons] at h
      obtain ⟨rfl, hrest⟩ :=
        encode_append_inj (hcs c List.mem_cons_self) (hds d List.mem_cons_self) h
      rw [ih (fun e he => hcs e (List.mem_cons_of_mem _ he))
        (fun e he => hds e (List.mem_cons_of_mem _ he)) hrest]

/-- **Commands can be told apart, alone and in a row.** Within the limits, as many readings as there
are commands give back the parts of each, in order, and leave exactly what follows; two lists of commands
with the same bytes are the same list; and a buffer to which a command is added holds what it held
before and then those bytes. -/
theorem encode_uniquely_decodable :
    (∀ (limits : Limits) (commands : List Command) (rest : Bytes) (failure : Option IoError),
      (∀ c ∈ commands, c.Fits limits) →
      times (Frame.read limits) commands.length
          (⟨commands.flatMap encode ++ rest, failure⟩ : Input) =
        .ok (commands.map fun c => .array (c.parts.map Frame.bulk)) ⟨rest, failure⟩) ∧
    (∀ cs ds : List Command, (∀ c ∈ cs, c.Countable) → (∀ d ∈ ds, d.Countable) →
      cs ≠ ds → cs.flatMap encode ≠ ds.flatMap encode) ∧
    ∀ (buffer : Bytes) (c : Command), c.encodeOnto buffer = buffer ++ c.encode := by
  refine ⟨?_, ?_, encodeOnto_eq⟩
  · intro limits commands rest failure h
    exact times_read_encode h rest failure
  · intro cs ds hcs hds hne h
    exact hne (flatMap_encode_injective hcs hds h)

/-- Two commands whose parts are empty, binary, or look like headers and terminators. -/
def lookalikes : List Command :=
  [⟨[], [Bytes.crlf, Bytes.ofAscii "$1\r\n"]⟩, ⟨Bytes.ofAscii "*2\r\n", [[], [0]]⟩]

theorem encode_uniquely_decodable_lookalikes :
    (∀ c ∈ lookalikes, c.Fits ⟨4, 3⟩) ∧
    times (Frame.read ⟨4, 3⟩) 2 (⟨lookalikes.flatMap encode ++ [43], none⟩ : Input) =
      .ok (lookalikes.map fun c => .array (c.parts.map Frame.bulk)) ⟨[43], none⟩ ∧
    lookalikes.flatMap encode ≠ lookalikes.reverse.flatMap encode := by
  have hfits : ∀ c ∈ lookalikes, c.Fits ⟨4, 3⟩ := by
    intro c hc
    exact ⟨⟨by revert c; decide, by revert c; decide⟩, by revert c; decide, by revert c; decide⟩
  have hcountable : ∀ c ∈ lookalikes.reverse, c.Countable := by
    intro c hc
    exact (hfits c (List.mem_reverse.mp hc)).toCountable
  refine ⟨hfits, encode_uniquely_decodable.1 ⟨4, 3⟩ lookalikes [43] none hfits, ?_⟩
  exact encode_uniquely_decodable.2.1 lookalikes lookalikes.reverse
    (fun c hc => (hfits c hc).toCountable) hcountable (by decide)

end Command

end StoreClient
