import StoreClient.Decimal.Real
import StoreClient.Text.Quoted
import StoreClient.Value

/-!
# `StoreClient/Value/Display.lean` — values shown to a person

Scalars are shown on one line with their tag; payloads are shown between quotation marks with
everything escaped that would not be seen. A collection has a line for each element: the items of an
array with their numbers from 1, the entries of a hash by increasing keys.

The key of a hash entry is shown as it is, unlike everything else that comes from the remote side.
-/

set_option autoImplicit false

namespace StoreClient

namespace Value

/-- Lines put together, with a line feed between any two. -/
def joinLines (lines : List (List Char)) : List Char :=
  List.intercalate ['\n'] lines

/-- A payload between quotation marks. -/
def showBytes (bytes : Bytes) : List Char :=
  '"' :: Text.escaped (Utf8.lossy bytes) ++ ['"']

/-- The line of an item, which has the given number. -/
def showItem (number : Nat) (item : Bytes) : List Char :=
  (toString number).toList ++ [')', ' '] ++ showBytes item

/-- The line of an entry. -/
def showEntry (entry : Bytes × Bytes) : List Char :=
  Utf8.lossy entry.1 ++ [' ', '=', '>', ' '] ++ showBytes entry.2

/-- The text that shows a value. -/
def display : Value → List Char
  | .error (some message) => "(error) ".toList ++ message.toList
  | .error none => "(error)".toList
  | .absent => "(nil)".toList
  | .integer n => "(integer) ".toList ++ (toString n.toInt).toList
  | .boolean b => "(boolean) ".toList ++ (toString b).toList
  | .double x => "(double) ".toList ++ (Decimal.ofFloat x).map fun b => Char.ofNat b.toNat
  | .bulk bytes => showBytes bytes
  | .array items =>
    if items.isEmpty then "(empty array)".toList
    else joinLines ((items.zipIdx 1).map fun (item, number) => showItem number item)
  | .hash entries =>
    if entries.isEmpty then "(empty hash)".toList
    else joinLines (entries.toList.map showEntry)
  | .type t => t.name.toList
  | .queued => "QUEUED".toList

instance : ToString Value := ⟨fun v => String.ofList v.display⟩

end Value

end StoreClient
