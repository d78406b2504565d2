import StoreClient.Text.Combining
import StoreClient.Text.Printable

/-!
# `StoreClient/Text/Quoted.lean` — text shown unambiguously

Whatever the remote side sends may be shown on a terminal or in an error line, so every character
without a visible form of its own is written as an escape. There are two forms, and the difference
is where the quotation marks are:

* `quoted` **is** a quotation, marks included. The marks are double, so an apostrophe inside needs
  no escape; a combining mark is escaped wherever it stands.
* `escaped` is put between quotation marks of either kind by whoever uses it, so it escapes both
  kinds. A combining mark is escaped only at the front, where it would join the mark before it.

Both are one function, `escape`, under an `Escaping` that holds those two decisions.
-/

set_option autoImplicit false

namespace StoreClient

namespace Text

/-- What the forms of escaping disagree on. -/
structure Escaping where
  /-- Whether an apostrophe is escaped. -/
  apostrophe : Bool
  /-- Whether a combining mark is escaped where it is not the first character. -/
  innerMarks : Bool

/-- A character by its number: a backslash, the letter `u`, and the code point in hexadecimal
between braces. -/
def byNumber (c : Char) : List Char :=
  '\\' :: 'u' :: '\x7b' :: Nat.toDigits 16 c.toNat ++ ['\x7d']

/-- One character; `marks` says whether a combining mark is escaped here. -/
def escapeChar (apostrophe marks : Bool) (c : Char) : List Char :=
  if c = '\x00' then ['\\', '0']
  else if c = '\t' then ['\\', 't']
  else if c = '\r' then ['\\', 'r']
  else if c = '\n' then ['\\', 'n']
  else if c = '\\' then ['\\', '\\']
  else if c = '"' then ['\\', '"']
  else if c = '\'' then (if apostrophe then ['\\', '\''] else ['\''])
  else if marks && extendsGrapheme c then byNumber c
  else if isPrintable c then [c]
  else byNumber c

/-- A text with everything escaped that the form escapes. -/
def escape (form : Escaping) : List Char → List Char
  | [] => []
  | c :: rest =>
    escapeChar form.apostrophe true c ++ rest.flatMap (escapeChar form.apostrophe form.innerMarks)

/-- The form for use between quotation marks of either kind. -/
def escaped (text : List Char) : List Char :=
  escape ⟨true, false⟩ text

/-- The text as a quotation. -/
def quoted (text : List Char) : List Char :=
  '"' :: escape ⟨false, true⟩ text ++ ['"']

end Text

end StoreClient
