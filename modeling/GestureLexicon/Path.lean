import GestureLexicon.PairwiseSum
import GestureLexicon.Point

/-!
A path through points, kept as one list of scalars per axis: its steps, the lengths of its segments
and its total length.
-/

namespace GestureLexicon

inductive PathError where
  | outOfRange (e : RangeError)
  | axesDiffer (xCount yCount : Nat)
  deriving DecidableEq, Repr

def PathError.message : PathError → String
  | outOfRange e => e.message
  | axesDiffer xCount yCount => s!"Coordinate arrays differ in length: {xCount} != {yCount}"

namespace Path
variable {κ α : Type} [Embeds κ α]

def coordinates (points : List (Point κ)) : Except PathError (List α × List α) := do
  let xs ← (embedAll (points.map Point.x)).mapError PathError.outOfRange
  let ys ← (embedAll (points.map Point.y)).mapError PathError.outOfRange
  return (xs, ys)

def steps [Sub α] : List α → List α
  | a :: b :: rest => (b - a) :: steps (b :: rest)
  | _ => []

def segmentLengths [Sub α] [Scalar α] (xs ys : List α) : Except PathError (List α) :=
  if xs.length ≠ ys.length then .error (.axesDiffer xs.length ys.length)
  else .ok (List.zipWith Scalar.hypot (steps xs) (steps ys))

def totalLength [Add α] [Zero α] (lengths : List α) : α :=
  pairwiseSum lengths

end Path

end GestureLexicon
