import GestureLexicon.Scalar

/-!
The numbers that describe one gesture: a reserved zero, then the leading coefficients of the x
signal and as many of the y signal.
-/

namespace GestureLexicon

inductive FeatureError where
  | tooFew (needed : Int) (xCount yCount : Nat)
  | outOfRange (e : RangeError)
  | noSuchIndex
  /-- An index beyond those that any list can have. -/
  | indexTooLarge
  deriving DecidableEq, Repr

def FeatureError.message : FeatureError → String
  | tooFew needed xCount yCount =>
    s!"Need {needed} coefficients per axis, got {xCount} and {yCount}"
  | outOfRange e => e.message
  | noSuchIndex => "tuple index out of range"
  | indexTooLarge => "cannot fit 'int' into an index-sized integer"

/-- The first entries of a list; a negative count leaves that many off at the end. -/
def leading {β : Type} (xs : List β) (count : Int) : List β :=
  if 0 ≤ count then xs.take count.toNat else xs.take (xs.length - count.natAbs)

structure FeatureVector (α : Type) where
  values : List α
  deriving DecidableEq

namespace FeatureVector
variable {κ α : Type}

def ofList [Embeds κ α] (values : List κ) : Except FeatureError (FeatureVector α) :=
  ((embedAll values).map FeatureVector.mk).mapError .outOfRange

def assemble [Embeds κ α] [Zero α] (x y : List κ) (count : Int) :
    Except FeatureError (FeatureVector α) := do
  if (min x.length y.length : Int) < count then throw (.tooFew count x.length y.length)
  let kept ← (embedAll (leading x count ++ leading y count)).mapError FeatureError.outOfRange
  return ⟨0 :: kept⟩

/-- Coefficients per axis, rounded down; one below zero for a vector without entries. -/
def coefficientCount (v : FeatureVector α) : Int :=
  ((v.values.length : Int) - 1) / 2

def xCoefficients (v : FeatureVector α) : List α :=
  (v.values.drop 1).take v.coefficientCount.toNat

def yCoefficients (v : FeatureVector α) : List α :=
  v.values.drop (1 + v.coefficientCount).toNat

/-- Indices lie below this number, and negative ones not below its opposite. -/
def indexLimit : Int := 9223372036854775808

/-- The entry at an index; a negative index counts from the end. -/
def get (v : FeatureVector α) (index : Int) : Except FeatureError α :=
  let place := if index < 0 then index + v.values.length else index
  if index < -indexLimit || indexLimit ≤ index then .error .indexTooLarge
  else match if place < 0 then none else v.values[place.toNat]? with
    | some value => .ok value
    | none => .error .noSuchIndex

end FeatureVector

end GestureLexicon
