import GestureLexicon.Multipliers
import GestureLexicon.Transform.Error

/-!
One filter step of a wavelet on a signal that is periodic at its ends. `analyse` correlates the
signal with the scaling coefficients at every second place, for the first half of the result, and
with the wavelet coefficients, for the second half. `synthesise` spreads each half back over the
places it was taken from, which for an orthonormal wavelet undoes `analyse`.
-/

namespace GestureLexicon.Wavelet
variable {α : Type} [Zero α] [Add α] [Mul α]

/-- The correlation of coefficients with the signal from a place on, past its end with its start. -/
def correlate (taps : List α) (signal : Array α) (start : Nat) : α :=
  taps.zipIdx.foldl
    (fun acc (tap, j) => acc + signal.getD ((start + j) % signal.size) 0 * tap) 0

def spread (taps : List (α × α)) (low high : α) (start : Nat) (out : Array α) : Array α :=
  taps.zipIdx.foldl
    (fun acc (tap, j) =>
      acc.modify ((start + j) % out.size) (· + (low * tap.1 + high * tap.2))) out

variable [Neg α]

/-- The signal's approximation half followed by its detail half. -/
def analyse (w : Wavelet α) (xs : List α) : List α :=
  let signal := xs.toArray
  let starts := (List.range (xs.length / 2)).map (2 * ·)
  starts.map (correlate w.scales signal) ++ starts.map (correlate w.coeffs signal)

def synthesise (w : Wavelet α) (xs : List α) : List α :=
  let bands := xs.toArray
  let half := xs.length / 2
  let taps := w.scales.zip w.coeffs
  ((List.range half).foldl
    (fun out i => spread taps (bands.getD i 0) (bands.getD (i + half) 0) (2 * i) out)
    (Array.replicate xs.length 0)).toList

/-- Level 0 or a length below the wavelet's own, at which a filter step changes nothing. -/
abbrev Passes (w : Wavelet α) (length : Nat) (level : Option Int) : Prop :=
  level = some 0 ∨ length < w.waveLength

/-- A filter step where the length allows one: lengths that are no power of two are refused, and
where the wavelet passes the signal stays as it is. -/
def guarded (step : List α → List α) (w : Wavelet α) (xs : List α) (level : Option Int) :
    Except TransformError (List α) :=
  if !isPowerOfTwo xs.length then .error (.notPowerOfTwo (.filter w.known) xs.length)
  else if w.Passes xs.length level then .ok xs
  else .ok (step xs)

def forward (w : Wavelet α) : List α → Option Int → Except TransformError (List α) :=
  guarded w.analyse w

def reverse (w : Wavelet α) : List α → Option Int → Except TransformError (List α) :=
  guarded w.synthesise w

end GestureLexicon.Wavelet
