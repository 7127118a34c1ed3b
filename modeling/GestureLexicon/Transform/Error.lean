import GestureLexicon.Wavelet

/-!
What a transform refuses, and how it says so.
-/

namespace GestureLexicon

inductive Stage where
  | filter (known : Option NamedWavelet)
  | pyramid
  | packet
  deriving DecidableEq, Repr

def Stage.title : Stage → String
  | filter known => NamedWavelet.titleOf known
  | pyramid => "FastWaveletTransform"
  | packet => "WaveletPacketTransform"

inductive TransformError where
  | notPowerOfTwo (stage : Stage) (length : Nat)
  | negativeShift
  | notALine (shape : List Nat)
  /-- A single entry where there has to be a line at least. -/
  | noLength
  /-- A line where a filter step needs a single entry. -/
  | nestedEntries
  | emptySignal
  | wrongDimension (expected : Nat) (shape : List Nat)
  | emptyData
  deriving DecidableEq, Repr

/-- The shape of data in parentheses; a single size is followed by a comma. -/
def shapeText : List Nat → String
  | [size] => s!"({size},)"
  | sizes => "(" ++ ", ".intercalate (sizes.map toString) ++ ")"

def TransformError.message : TransformError → String
  | notPowerOfTwo stage length => s!"{stage.title} needs a power-of-two length, got {length}"
  | negativeShift => "negative shift count"
  | notALine shape => s!"Expected a 1-D signal, got shape {shapeText shape}"
  | noLength => "len() of unsized object"
  | nestedEntries => "setting an array element with a sequence."
  | emptySignal => "Cannot transform an empty signal"
  | wrongDimension expected shape => s!"Expected {expected}-D data, got shape {shapeText shape}"
  | emptyData => "Cannot transform empty data"

end GestureLexicon
