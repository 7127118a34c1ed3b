import GestureLexicon.Settings.Value
import GestureLexicon.Text.Encoded

/-!
Values as they are handed on to where words are processed. Not every value can be handed on, and
numbers that are not finite become nothing.
-/

namespace GestureLexicon

inductive PassingError where
  | tooDeep
  | name (e : Text.EncodingError)
  deriving DecidableEq, Repr

def PassingError.message : PassingError → String
  | tooDeep => "Maximum serialization depth exceeded"
  | name e => e.message

namespace Value
variable [Text.Halves]

def checkName (name : String) : Except PassingError Unit :=
  match Text.encodingError? name with
  | some e => .error (.name e)
  | none => .ok ()

def depthLimit : Nat := 255

mutual

/-- The value as it is handed on, if so many values can still stand in each other. -/
def passedWithin : Value → Nat → Except PassingError Value
  | _, 0 => .error .tooDeep
  | .number (.real x), _ => .ok (if Binary64.isFinite x then .number (.real x) else .null)
  | .list items, room + 1 => do return .list (← itemsWithin items room)
  | .record fields, room + 1 => do return .record (← fieldsWithin fields room)
  | v, _ => .ok v

def itemsWithin : List Value → Nat → Except PassingError (List Value)
  | [], _ => .ok []
  | item :: rest, room => do return (← item.passedWithin room) :: (← itemsWithin rest room)

def fieldsWithin : List (String × Value) → Nat → Except PassingError (List (String × Value))
  | [], _ => .ok []
  | (name, item) :: rest, room => do
    checkName name
    return (name, ← item.passedWithin room) :: (← fieldsWithin rest room)

end

def passed (v : Value) : Except PassingError Value :=
  v.passedWithin depthLimit

end Value

end GestureLexicon
