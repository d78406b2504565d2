/-!
# `StoreClient/Text/Blank.lean` — white space around a text

The text of a number may be padded with any white space that Unicode knows, which is more than the
six characters that an integer line may start with. The class is White_Space of the Unicode
character database, and it is small enough to be spelt out.
-/

set_option autoImplicit false

namespace StoreClient

namespace Text

/-- Whether a character has the property White_Space. -/
def isBlank (c : Char) : Bool :=
  let code := c.toNat
  (9 ≤ code && code ≤ 13) || code == 0x20 || code == 0x85 || code == 0xA0 || code == 0x1680
    || (0x2000 ≤ code && code ≤ 0x200A) || code == 0x2028 || code == 0x2029 || code == 0x202F
    || code == 0x205F || code == 0x3000

/-- The text without the white space at its two ends. -/
def trim (text : List Char) : List Char :=
  ((text.dropWhile isBlank).reverse.dropWhile isBlank).reverse

end Text

end StoreClient
