import StoreClient.Command

/-!
# `StoreClient/Command/Encoding.lean` — commands on the wire

A command travels as an array of counted byte strings:

    * <number of parts> CR LF
    $ <length> CR LF <that many bytes> CR LF        for each part

Nothing in a part is ever looked at, so a part may hold any bytes: where it ends is decided by its
length alone. `encode` writes that form, `encodeOnto` puts it piece by piece behind what a buffer
already holds, and `encodedSize` says how long it is going to be without writing it.
-/

set_option autoImplicit false

namespace StoreClient

namespace Command

/-- The byte that announces a number of parts. -/
def arraySigil : UInt8 := 42

/-- The byte that announces the length of a part. -/
def bulkSigil : UInt8 := 36

/-- A line that announces a number: the sigil, the numeral, and the end of the line. -/
def header (sigil : UInt8) (n : Nat) : Bytes :=
  sigil :: Decimal.ofNat n ++ Bytes.crlf

/-- One part with its length before it. -/
def encodePart (part : Bytes) : Bytes :=
  header bulkSigil part.length ++ part ++ Bytes.crlf

/-- The command as it travels. -/
def encode (c : Command) : Bytes :=
  header arraySigil c.size ++ c.parts.flatMap encodePart

/-- The buffer with one more part behind what it already holds. -/
def putPart (buffer part : Bytes) : Bytes :=
  buffer ++ header bulkSigil part.length ++ part ++ Bytes.crlf

/-- The buffer with the command behind what it already holds: the line that announces the parts, and
then one part after the other. -/
def encodeOnto (buffer : Bytes) (c : Command) : Bytes :=
  c.parts.foldl putPart (buffer ++ header arraySigil c.size)

/-- The size of a line that announces `n`: sigil, digits and the two bytes of the line's end. -/
def headerSize (n : Nat) : Nat :=
  1 + Decimal.width n + 2

/-- The size of a part with its length before it and the end of the line behind it. -/
def partSize (part : Bytes) : Nat :=
  headerSize part.length + part.length + 2

/-- The size of the encoded command. -/
def encodedSize (c : Command) : Nat :=
  c.parts.foldl (fun size part => size + partSize part) (headerSize c.size)

end Command

end StoreClient
