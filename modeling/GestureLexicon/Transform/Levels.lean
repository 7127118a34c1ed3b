import GestureLexicon.Blocks
import GestureLexicon.Wavelet

/-!
How often a transform filters and at which widths. The widths halve from the full length for as long
as they hold the wavelet, bounded by a level; the way back starts at the narrowest of them and
doubles up to the full length.
-/

namespace GestureLexicon

/-- How often a length can be halved, counting itself, before it is shorter than the wavelet. -/
def Wavelet.depth {α : Type} (w : Wavelet α) (length : Nat) : Nat :=
  if h : w.waveLength ≤ length then w.depth (length / 2) + 1 else 0
termination_by length
decreasing_by
  have := w.two_le
  unfold waveLength at h
  omega

def Wavelet.levelCount {α : Type} (w : Wavelet α) (length : Int) (level : Option Int) : Int :=
  let depth : Int := w.depth length.toNat
  match level with
  | none => depth
  | some bound => min depth bound

namespace Levels

/-- `count` widths from `width` down, each half of the one before. -/
def narrowing : (count width : Nat) → List Nat
  | 0, _ => []
  | count + 1, width => width :: narrowing count (width / 2)

def widening (width full : Nat) : List Nat :=
  if 0 < width ∧ width ≤ full then width :: widening (2 * width) full else []
termination_by full + 1 - width

end Levels

end GestureLexicon
