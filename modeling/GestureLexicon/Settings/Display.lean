import GestureLexicon.Decimal.Shortest
import GestureLexicon.Settings.Value
import GestureLexicon.Text.Halves
import GestureLexicon.Text.Quoted

/-!
Values as reports show them. A long text is shown by its ends.
-/

namespace GestureLexicon

namespace Value
variable [Text.Halves]

mutual

def shown : Value → String
  | .null => "None"
  | .boolean b => if b then "True" else "False"
  | .number (.whole n) => toString n
  | .number (.real x) => Decimal.plain x
  | .text s => Text.quotedBy Text.Halves.code s
  | .list items => "[" ++ ", ".intercalate (shownItems items) ++ "]"
  | .record fields => "\x7b" ++ ", ".intercalate (shownFields fields) ++ "\x7d"

def shownItems : List Value → List String
  | [] => []
  | item :: rest => item.shown :: shownItems rest

def shownFields : List (String × Value) → List String
  | [] => []
  | (name, item) :: rest =>
    (Text.quotedBy Text.Halves.code name ++ ": " ++ item.shown) :: shownFields rest

end

end Value

namespace Text

/-- The longest start of characters that takes so many bytes at most. -/
def fitting (bytes : Nat) : List Char → List Char
  | [] => []
  | c :: rest => if bytes < c.utf8Size then [] else c :: fitting (bytes - c.utf8Size) rest

def shownBytes : Nat := 50

def abridged (s : String) : String :=
  if s.utf8ByteSize ≤ shownBytes then s
  else
    let before := fitting (shownBytes / 2) s.toList
    let after := (fitting (shownBytes / 2 - 1) s.toList.reverse).reverse
    .ofList (before ++ '.' :: '.' :: '.' :: after)

end Text

end GestureLexicon
