import StoreClient.Decimal.Numeral
import StoreClient.Limits
import StoreClient.Text.Quoted
import StoreClient.Text.Utf8

/-!
# `StoreClient/Reply/Fault.lean` — how a reply can break the protocol

A reply that is cut short is the stream's fault (`Error/Io`); the faults here are those of the bytes
that did arrive. All of them lose the place where the next reply starts, which is why none of them can
be survived.
-/

set_option autoImplicit false

namespace StoreClient

/-- What a header line announces the size of. -/
inductive Measured where
  | bulk
  | array
  deriving DecidableEq, Repr

/-- What the announced number is called. -/
def Measured.name : Measured → String
  | .bulk => "bulk length"
  | .array => "array count"

/-- A way in which bytes from the remote side are no reply. -/
inductive ProtocolFault where
  /-- A line of the greatest length without an end. -/
  | lineTooLong
  /-- A line that ends without the carriage return. -/
  | bareLineFeed
  /-- A reply line with nothing on it. -/
  | emptyLine
  /-- A reply line that starts with a byte that no reply starts with. -/
  | unknownSigil (sigil : UInt8)
  /-- A number that is none. -/
  | malformed (what : Measured) (text : Bytes)
  /-- A payload length below the one that stands for no payload. -/
  | negativeLength (length : Int)
  | bulkTooLarge (length max : Nat)
  /-- A payload that is not followed by the end of a line. -/
  | unterminatedBulk
  | arrayTooLarge (count max : Nat)
  | nestedTooDeeply
  /-- A fault that whoever found it describes. -/
  | described (text : String)
  deriving DecidableEq, Repr

namespace ProtocolFault

/-- A byte as two hexadecimal digits. -/
def hexByte (b : UInt8) : String :=
  String.ofList [Nat.digitChar (b.toNat / 16), Nat.digitChar (b.toNat % 16)]

/-- The fault in words. -/
def message : ProtocolFault → String
  | .lineTooLong => s!"Reply line exceeds {Limits.maxLine} bytes"
  | .bareLineFeed => "Reply line not terminated by CRLF"
  | .emptyLine => "Empty reply line"
  | .unknownSigil sigil => s!"Unknown reply type byte: 0x{hexByte sigil}"
  | .malformed what text =>
    s!"Malformed {what.name}: " ++ String.ofList (Text.quoted (Utf8.lossy text))
  | .negativeLength length => s!"Invalid bulk length: {length}"
  | .bulkTooLarge length max => s!"Bulk string too large: {length} bytes (max {max})"
  | .unterminatedBulk => "Bulk string not terminated by CRLF"
  | .arrayTooLarge count max => s!"Array too large: {count} elements (max {max})"
  | .nestedTooDeeply => s!"Array nesting deeper than {Limits.maxNesting}"
  | .described text => text

end ProtocolFault

end StoreClient
