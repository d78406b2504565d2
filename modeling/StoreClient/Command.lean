import StoreClient.Decimal.Real
import StoreClient.Text.Quoted

/-!
# `StoreClient/Command.lean` — commands

A command is a keyword and its arguments, all of them arbitrary bytes. It has a keyword by its type,
so there is no empty command to guard against. Arguments are appended in order; a number joins the
list as its decimal text.
-/

set_option autoImplicit false

namespace StoreClient

/-- A command that is ready to be sent. -/
structure Command where
  keyword : Bytes
  arguments : List Bytes := []
  deriving DecidableEq

namespace Command

/-- The command with the given keyword and no arguments. -/
def ofKeyword (word : String) : Command :=
  { keyword := Bytes.ofAscii word }

/-- The keyword and then the arguments, which is what travels. -/
def parts (c : Command) : List Bytes :=
  c.keyword :: c.arguments

/-- The number of parts. -/
def size (c : Command) : Nat :=
  c.parts.length

/-! ## Appending arguments -/

/-- Appends several arguments in order. -/
def args (c : Command) (more : List Bytes) : Command :=
  { c with arguments := c.arguments ++ more }

/-- Appends one argument. -/
def arg (c : Command) (a : Bytes) : Command :=
  c.args [a]

/-- Appends a word of the command language. -/
def word (c : Command) (w : String) : Command :=
  c.arg (Bytes.ofAscii w)

/-- Appends an integer. -/
def int (c : Command) (n : Int64) : Command :=
  c.arg (Decimal.ofInt n.toInt)

/-- Appends a double as the shortest text that reads back. -/
def real (c : Command) (x : Float) : Command :=
  c.arg (Decimal.ofFloat x)

/-- Appends an argument if a condition holds. -/
def argIf (c : Command) (condition : Bool) (a : Bytes) : Command :=
  if condition then c.arg a else c

/-! ## Showing -/

/-- The command as a list of quotations, one for each part. -/
def quoted (c : Command) : List Char :=
  let quotations := c.parts.map fun part => Text.quoted (Utf8.lossy part)
  '[' :: List.intercalate [',', ' '] quotations ++ [']']

end Command

end StoreClient
