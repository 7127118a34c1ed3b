import GestureLexicon.Transform.Levels
import GestureLexicon.Wavelet.Filter

/-!
The transforms that filter level by level. The pyramid filters only the leading band again, so that
its result opens with the coarsest approximation and continues with details from coarse to fine.
The packet transform filters every band of the current width again.
-/

namespace GestureLexicon.Wavelet
variable {α : Type}

def onLeading (step : List α → Except TransformError (List α)) (xs : List α) (width : Nat) :
    Except TransformError (List α) := do
  return (← step (xs.take width)) ++ xs.drop width

def onBlocks (step : List α → Except TransformError (List α)) (xs : List α) (width : Nat) :
    Except TransformError (List α) := do
  return ((← (blocks width xs).mapM step).flatten)

/-- Filters at the narrowing widths of a signal, as far as the level allows. -/
def descend (pass : List α → Nat → Except TransformError (List α)) (stage : Stage) (w : Wavelet α)
    (xs : List α) (level : Option Int) : Except TransformError (List α) :=
  if !isPowerOfTwo xs.length then .error (.notPowerOfTwo stage xs.length)
  else (Levels.narrowing (w.levelCount xs.length level).toNat xs.length).foldlM pass xs

/-- Filters at the widths that `descend` used, the narrowest first. Below level 0 there is no
narrowest width. -/
def ascend (pass : List α → Nat → Except TransformError (List α)) (stage : Stage) (w : Wavelet α)
    (xs : List α) (level : Option Int) : Except TransformError (List α) :=
  let count := w.levelCount xs.length level
  if !isPowerOfTwo xs.length then .error (.notPowerOfTwo stage xs.length)
  else if count = 0 then .ok xs
  else if count < 0 then .error .negativeShift
  else (Levels.widening (xs.length >>> (count - 1).toNat) xs.length).foldlM pass xs

variable [Zero α] [Add α] [Mul α] [Neg α]

def pyramidForward (w : Wavelet α) : List α → Option Int → Except TransformError (List α) :=
  descend (onLeading (w.forward · none)) .pyramid w

def pyramidReverse (w : Wavelet α) : List α → Option Int → Except TransformError (List α) :=
  ascend (onLeading (w.reverse · none)) .pyramid w

def packetForward (w : Wavelet α) : List α → Option Int → Except TransformError (List α) :=
  descend (onBlocks (w.forward · none)) .packet w

def packetReverse (w : Wavelet α) : List α → Option Int → Except TransformError (List α) :=
  ascend (onBlocks (w.reverse · none)) .packet w

end GestureLexicon.Wavelet
