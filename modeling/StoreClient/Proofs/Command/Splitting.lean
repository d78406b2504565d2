import StoreClient.Proofs.Command.Encoding

/-!
# `StoreClient/Proofs/Command/Splitting.lean` — commands are split off the front of a stream

Whoever receives commands gets a stream of bytes in which they stand one after the other, the last of them
perhaps not complete yet. `split?` takes the first command off: the number of parts, then each part by its
length. Unlike the reader of replies it knows no limits, so it takes **every command off what begins with
it, and leaves exactly what follows** (`split?_append`). In particular the bytes of a command say where it
ends and which command it is (`encode_prefix_free`).
-/

set_option autoImplicit false

namespace StoreClient

namespace Command

/-- Takes a sigil, a numeral and the end of the line off the front. -/
def splitHeader (sigil : UInt8) : Bytes → Option (Nat × Bytes)
  | [] => none
  | b :: bytes =>
    match bytes.dropWhile Bytes.isDigit with
    | 13 :: 10 :: rest =>
      if b = sigil then some (Decimal.valueOf (bytes.takeWhile Bytes.isDigit), rest) else none
    | _ => none

/-- Takes a part off the front, with the line before it and the end of the line behind it. -/
def splitPart (bytes : Bytes) : Option (Bytes × Bytes) := do
  let (length, rest) ← splitHeader bulkSigil bytes
  if length + 2 ≤ rest.length then some (rest.take length, rest.drop (length + 2)) else none

/-- Takes a number of parts off the front. -/
def splitParts : Nat → Bytes → Option (List Bytes × Bytes)
  | 0, bytes => some ([], bytes)
  | count + 1, bytes => do
    let (part, rest) ← splitPart bytes
    let (parts, rest) ← splitParts count rest
    some (part :: parts, rest)

/-- Takes a command off the front. -/
def split? (bytes : Bytes) : Option (Command × Bytes) := do
  let (count, rest) ← splitHeader arraySigil bytes
  match ← splitParts count rest with
  | (keyword :: arguments, rest) => some (⟨keyword, arguments⟩, rest)
  | ([], _) => none

theorem splitHeader_append (sigil : UInt8) (n : Nat) (rest : Bytes) :
    splitHeader sigil (header sigil n ++ rest) = some (n, rest) := by
  -- The digits end where the line does: a carriage return is no digit.
  have hdigits := Decimal.isDigit_of_mem_ofNat n
  have hdrop : (Decimal.ofNat n ++ (13 :: 10 :: rest)).dropWhile Bytes.isDigit = 13 :: 10 :: rest := by
    rw [List.dropWhile_append_of_pos hdigits]
    rfl
  have htake : (Decimal.ofNat n ++ (13 :: 10 :: rest)).takeWhile Bytes.isDigit = Decimal.ofNat n := by
    rw [List.takeWhile_append_of_pos hdigits]
    exact List.append_nil _
  have hheader : header sigil n ++ rest = sigil :: (Decimal.ofNat n ++ (13 :: 10 :: rest)) := by
    simp [header, Bytes.crlf, Bytes.cr, Bytes.lf]
  rw [hheader, splitHeader, hdrop, htake, Decimal.valueOf_ofNat]
  simp

theorem splitPart_append (part rest : Bytes) :
    splitPart (encodePart part ++ rest) = some (part, rest) := by
  have hpart : encodePart part ++ rest =
      header bulkSigil part.length ++ (part ++ (13 :: 10 :: rest)) := by
    simp [encodePart, Bytes.crlf, Bytes.cr, Bytes.lf]
  rw [splitPart, hpart, splitHeader_append]
  simp [← List.drop_drop]

theorem splitParts_append (parts : List Bytes) (rest : Bytes) :
    splitParts parts.length (parts.flatMap encodePart ++ rest) = some (parts, rest) := by
  induction parts with
  | nil => rfl
  | cons part parts ih =>
    rw [List.length_cons, splitParts, List.flatMap_cons, List.append_assoc, splitPart_append]
    simp [ih]

theorem split?_append (c : Command) (rest : Bytes) : split? (c.encode ++ rest) = some (c, rest) := by
  have hparts := splitParts_append c.parts rest
  rw [split?, encode, List.append_assoc, splitHeader_append]
  simp only [Option.bind_eq_bind, Option.bind_some, size, hparts]
  rfl

/-- **No command is the beginning of another one.** -/
theorem encode_prefix_free {c d : Command} {x y : Bytes} (h : c.encode ++ x = d.encode ++ y) :
    c = d ∧ x = y := by
  have hsplit := split?_append c x
  rw [h, split?_append] at hsplit
  obtain ⟨hcommand, hrest⟩ := Prod.mk.inj (Option.some.inj hsplit)
  exact ⟨hcommand.symm, hrest.symm⟩

theorem eq_of_encode_prefix {c d : Command} (h : c.encode <+: d.encode) : c = d := by
  obtain ⟨rest, hrest⟩ := h
  exact (encode_prefix_free (hrest.trans (List.append_nil _).symm)).1

end Command

end StoreClient
