import GestureLexicon.Transform.Grid

/-!
Data as lists in lists. Such data has a shape if all lists of one depth have the same length and no
entry stands beside a list.
-/

namespace GestureLexicon

inductive Nested (κ : Type) where
  | entry (x : κ)
  | list (items : List (Nested κ))

inductive ShapeError where
  /-- The shape is that of the depths at which the data is even. -/
  | uneven (shape : List Nat)
  | tooDeep
  | outOfRange (e : RangeError)
  deriving DecidableEq, Repr

def Tensor.mostAxes : Nat := 64

def ShapeError.message : ShapeError → String
  | uneven shape =>
    s!"setting an array element with a sequence. The requested array has an inhomogeneous shape "
      ++ s!"after {shape.length} dimensions. The detected shape was {shapeText shape} + "
      ++ "inhomogeneous part."
  | tooDeep =>
    "setting an array element with a sequence. The requested array would exceed the maximum "
      ++ s!"number of dimension of {Tensor.mostAxes}."
  | outOfRange e => e.message

namespace Nested
variable {κ : Type}

def items : Nested κ → List (Nested κ)
  | entry _ => []
  | list inner => inner

def length? : Nested κ → Option Nat
  | entry _ => none
  | list inner => some inner.length

mutual

def entries : Nested κ → List κ
  | entry x => [x]
  | list inner => entriesOf inner

def entriesOf : List (Nested κ) → List κ
  | [] => []
  | inner :: rest => inner.entries ++ entriesOf rest

end

/-- The lengths that all lists of one depth share, for so many depths at most, and whether only
entries are left below these. -/
def shapeWithin : Nat → List (Nested κ) → List Nat × Bool
  | 0, parts => ([], parts.all fun part => part.length?.isNone)
  | depth + 1, parts =>
    match (parts.map length?).eraseDups with
    | [some length] =>
      let (inner, even) := shapeWithin depth (parts.flatMap items)
      (length :: inner, even)
    | found => ([], found.all Option.isNone)

def toTensor {α : Type} [Embeds κ α] (data : Nested κ) : Except ShapeError (Tensor α) := do
  let (shape, even) := shapeWithin Tensor.mostAxes [data]
  if !even then throw (if shape.length = Tensor.mostAxes then .tooDeep else .uneven shape)
  return ⟨shape, ← (embedAll data.entries).mapError .outOfRange⟩

end Nested

end GestureLexicon
