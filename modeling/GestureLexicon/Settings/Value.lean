import GestureLexicon.Point

/-!
Unchecked setting values, as a configuration file or an assignment gives them.
-/

namespace GestureLexicon

inductive Value where
  | null
  | boolean (b : Bool)
  | number (n : Coordinate)
  | text (s : String)
  | list (items : List Value)
  | record (fields : List (String × Value))

namespace Value

def whole (n : Int) : Value := .number (.whole n)

def kind : Value → String
  | null => "NoneType"
  | boolean _ => "bool"
  | number (.whole _) => "int"
  | number (.real _) => "float"
  | text _ => "str"
  | list _ => "list"
  | record _ => "dict"

def field? (fields : List (String × Value)) (name : String) : Option Value :=
  fields.lookup name

end Value

end GestureLexicon
