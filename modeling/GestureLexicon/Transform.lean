import GestureLexicon.Transform.Pyramid

/-!
The transforms of one line of data: the wavelet filter itself, the two transforms that repeat it
level by level, and the decomposition that carries any of them from power-of-two lengths to every
positive length by treating each power-of-two part of the line on its own.
-/

namespace GestureLexicon

structure LineTransform (α : Type) where
  forward : List α → Option Int → Except TransformError (List α)
  reverse : List α → Option Int → Except TransformError (List α)

namespace LineTransform
variable {α : Type}

/-- Applies a step to every part of a line; a part of one entry stays as it is. -/
def onParts (step : List α → Option Int → Except TransformError (List α)) (xs : List α)
    (level : Option Int) : Except TransformError (List α) :=
  if xs.isEmpty then .error .emptySignal
  else do
    let pieces ← (Multipliers.parts xs.length).mapM fun (offset, size) =>
      let piece := (xs.drop offset).take size
      if size = 1 then .ok piece else step piece level
    return pieces.flatten

def decomposed (t : LineTransform α) : LineTransform α :=
  ⟨onParts t.forward, onParts t.reverse⟩

end LineTransform

inductive Transform (α : Type) where
  | filter (w : Wavelet α)
  | pyramid (w : Wavelet α)
  | packet (w : Wavelet α)
  | decomposed (inner : Transform α)

namespace Transform
variable {α : Type}

def title : Transform α → String
  | filter w => w.title
  | pyramid _ => Stage.pyramid.title
  | packet _ => Stage.packet.title
  | decomposed _ => "AncientEgyptianDecomposition"

def description : Transform α → String
  | filter w => s!"{w.title}()"
  | pyramid w => s!"{Stage.pyramid.title}({w.title}())"
  | packet w => s!"{Stage.packet.title}({w.title}())"
  | decomposed inner => s!"AncientEgyptianDecomposition({inner.description})"

def levelCount? (length : Int) (level : Option Int) : Transform α → Option Int
  | pyramid w | packet w => some (w.levelCount length level)
  | filter _ | decomposed _ => none

variable [Zero α] [Add α] [Mul α] [Neg α]

def line : Transform α → LineTransform α
  | filter w => ⟨w.forward, w.reverse⟩
  | pyramid w => ⟨w.pyramidForward, w.pyramidReverse⟩
  | packet w => ⟨w.packetForward, w.packetReverse⟩
  | decomposed inner => inner.line.decomposed

def forward (t : Transform α) : List α → Option Int → Except TransformError (List α) :=
  t.line.forward

def reverse (t : Transform α) : List α → Option Int → Except TransformError (List α) :=
  t.line.reverse

end Transform

end GestureLexicon
