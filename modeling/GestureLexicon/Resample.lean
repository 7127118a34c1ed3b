import GestureLexicon.PairwiseSum
import GestureLexicon.Scalar

/-!
Resampling a path to points equally spaced along its length. A cursor walks the segments once: for
each target distance it passes every segment that ends before the target and stays there for the
next. Which segment a target falls in depends on the lengths alone, so the axes of one path are
always read in step.
-/

namespace GestureLexicon

inductive ResampleError where
  | tooFewSamples (given : Nat)
  | lengthCount (needed given : Nat)
  | tooFewTargets (asked : Int)
  /-- More samples than can be counted, or than can be held. -/
  | tooManyTargets (asked : Int)
  deriving DecidableEq, Repr

/-- The most samples that an array of eight bytes each can hold. -/
def Resample.mostHeld : Int := 1152921504606846975

def Resample.mostCounted : Int := 9223372036854775807

def ResampleError.message : ResampleError → String
  | tooFewSamples given => s!"Need at least 2 samples to resample, got {given}"
  | lengthCount needed given => s!"Expected {needed} segment lengths, got {given}"
  | tooFewTargets asked => s!"Sample count must be at least 2, got {asked}"
  | tooManyTargets asked =>
    if Resample.mostCounted < asked then "Maximum allowed dimension exceeded"
    else "array is too big; `arr.size * arr.dtype.itemsize` is larger than the maximum possible "
      ++ "size."

namespace Resample
variable {α : Type}

/-- A place on a path: the segment walked to, and the length of all segments before it. -/
structure Cursor (α : Type) where
  segment : Nat
  offset : α

section
variable [Add α] [Scalar α]

def Cursor.advance (lengths : Array α) (target : α) (c : Cursor α) : Cursor α :=
  if h : c.segment < lengths.size then
    let next := c.offset + lengths[c.segment]
    if Scalar.less next target then advance lengths target ⟨c.segment + 1, next⟩ else c
  else c
termination_by lengths.size - c.segment

def walk (lengths : Array α) : List α → Cursor α → List (α × Cursor α)
  | [], _ => []
  | target :: rest, c =>
    let reached := c.advance lengths target
    (target, reached) :: walk lengths rest reached

end

/-- The distances of `count` points that divide a length evenly, both of its ends among them. -/
def targets [Mul α] [Div α] [Scalar α] (total : α) (count : Nat) : List α :=
  (List.range count).map fun i => Scalar.ofNat i * total / Scalar.ofNat (count - 1)

def places [Zero α] [Add α] [Mul α] [Div α] [Scalar α] (lengths : List α) (count : Nat) :
    List (α × Cursor α) :=
  walk lengths.toArray (targets (pairwiseSum lengths) count) ⟨0, 0⟩

/-- The value at a target distance, read between the ends of the segment walked to. A segment
without length gives its end, and past the last segment stands the last value of all. -/
def valueAt [Add α] [Sub α] [Mul α] [Div α] [Scalar α] (lengths values : Array α) (last target : α)
    (c : Cursor α) : α :=
  match lengths[c.segment]?, values[c.segment]?, values[c.segment + 1]? with
  | some length, some a, some b =>
    if Scalar.isZero length then b else a + (b - a) * ((target - c.offset) / length)
  | _, _, _ => last

end Resample

/-- `count` values equally spaced along a path, from the values at its points and the lengths of its
segments. -/
def resample {α : Type} [Zero α] [Add α] [Sub α] [Mul α] [Div α] [Scalar α]
    (values lengths : List α) (count : Int) : Except ResampleError (List α) :=
  if h : values.length < 2 then .error (.tooFewSamples values.length)
  else if lengths.length ≠ values.length - 1 then
    .error (.lengthCount (values.length - 1) lengths.length)
  else if count < 2 then .error (.tooFewTargets count)
  else
    let last := values.getLast (by intro empty; simp [empty] at h)
    let lengthAt := lengths.toArray
    let valueOf := values.toArray
    .ok ((Resample.places lengths count.toNat).map fun (target, place) =>
      Resample.valueAt lengthAt valueOf last target place)

def resampleInRoom {α : Type} [Zero α] [Add α] [Sub α] [Mul α] [Div α] [Scalar α]
    (values lengths : List α) (count : Int) : Except ResampleError (List α) := do
  if Resample.mostHeld < count then
    discard (resample values lengths 2)
    throw (.tooManyTargets count)
  resample values lengths count

def Resample.defaultCount : Int := 64

end GestureLexicon
