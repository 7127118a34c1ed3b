import GestureLexicon.Scalar

/-!
Orthonormal wavelets given by their scaling coefficients. The wavelet coefficients follow from them
by the alternating flip: the same numbers in reverse order, every second one negated.
-/

namespace GestureLexicon

inductive NamedWavelet where
  | haar
  | daubechies4
  | coiflet6
  deriving DecidableEq, Repr

namespace NamedWavelet

def name : NamedWavelet → String
  | haar => "haar"
  | daubechies4 => "daubechies4"
  | coiflet6 => "coiflet6"

def title : NamedWavelet → String
  | haar => "Haar02"
  | daubechies4 => "Daubechies04"
  | coiflet6 => "Coiflet06"

def all : List NamedWavelet := [haar, daubechies4, coiflet6]

def inNameOrder : List NamedWavelet := [coiflet6, daubechies4, haar]

def ofName? (s : String) : Option NamedWavelet :=
  all.find? fun wavelet => wavelet.name == s

def titleOf : Option NamedWavelet → String
  | some wavelet => wavelet.title
  | none => "Wavelet"

end NamedWavelet

inductive WaveletError where
  | unknown (name : String)
  | coefficientCount (given : Nat)
  deriving DecidableEq, Repr

def WaveletError.message : WaveletError → String
  | unknown name =>
    let choices := ", ".intercalate (NamedWavelet.inNameOrder.map NamedWavelet.name)
    s!"Unknown wavelet '{name}' (choose from: {choices})"
  | coefficientCount given =>
    s!"Wavelet needs an even number (>= 2) of coefficients, got {given}"

/-- A wavelet: an even number of scaling coefficients, two or more. -/
structure Wavelet (α : Type) where
  known : Option NamedWavelet
  scales : List α
  two_le : 2 ≤ scales.length
  even : scales.length % 2 = 0

namespace Wavelet
variable {α : Type}

/-- The name a configuration would use, and a word for a wavelet without one. -/
def name (w : Wavelet α) : String :=
  (w.known.map NamedWavelet.name).getD "wavelet"

def title (w : Wavelet α) : String :=
  NamedWavelet.titleOf w.known

def waveLength (w : Wavelet α) : Nat := w.scales.length

def coeffs [Neg α] (w : Wavelet α) : List α :=
  w.scales.reverse.mapIdx fun i h => if i % 2 = 0 then h else -h

def ofScales (scales : List α) : Except WaveletError (Wavelet α) :=
  if h : 2 ≤ scales.length ∧ scales.length % 2 = 0 then .ok ⟨none, scales, h.1, h.2⟩
  else .error (.coefficientCount scales.length)

section
variable [Add α] [Sub α] [Mul α] [Div α] [Scalar α]

def haar : Wavelet α :=
  let tap := Scalar.ofNat 1 / Scalar.sqrt (Scalar.ofNat 2)
  ⟨some .haar, [tap, tap], by simp, by simp⟩

def daubechies4 : Wavelet α :=
  let one : α := Scalar.ofNat 1
  let three : α := Scalar.ofNat 3
  let root := Scalar.sqrt three
  let norm := Scalar.ofNat 4 * Scalar.sqrt (Scalar.ofNat 2)
  ⟨some .daubechies4,
    [(one + root) / norm, (three + root) / norm, (three - root) / norm, (one - root) / norm],
    by simp, by simp⟩

def coiflet6 : Wavelet α :=
  let number (n : Nat) : α := Scalar.ofNat n
  let factor := Scalar.sqrt (number 2)
  let root := Scalar.sqrt (number 15)
  ⟨some .coiflet6,
    [factor * (root - number 3) / number 32,
     factor * (number 1 - root) / number 32,
     factor * (number 6 - number 2 * root) / number 32,
     factor * (number 2 * root + number 6) / number 32,
     factor * (root + number 13) / number 32,
     factor * (number 9 - root) / number 32],
    by simp, by simp⟩

def ofNamed : NamedWavelet → Wavelet α
  | .haar => haar
  | .daubechies4 => daubechies4
  | .coiflet6 => coiflet6

def ofName (name : String) : Except WaveletError (Wavelet α) :=
  match NamedWavelet.ofName? name with
  | some wavelet => .ok (ofNamed wavelet)
  | none => .error (.unknown name)

end

end Wavelet

end GestureLexicon
