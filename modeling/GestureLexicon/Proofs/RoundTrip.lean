import GestureLexicon.Proofs.Reconstruction

/-!
Transforms and their way back. On an orthonormal wavelet the filter and its way back are inverse at
every power-of-two length, and all that is built from them inherits this: the bands and blocks of
each width, the widths in one order there and in the opposite order back, and the parts of a line.
-/

namespace GestureLexicon

/-- Two steps on the lines of a length that undo each other. -/
abbrev Inverse {α : Type} (length : Nat)
    (there back : List α → Except TransformError (List α)) : Prop :=
  Undoes length there back ∧ Undoes length back there

namespace Wavelet
variable {length : Nat} {level : Option Int}

/-- Passes that are inverse at each of the widths are inverse one after another. -/
theorem inverse_levels {α : Type} {w : Wavelet α} {stage : Stage}
    {forth fro : List α → Nat → Except TransformError (List α)}
    (power : length.isPowerOfTwo) (allowed : LevelAllowed level)
    (inverse : ∀ width ∈ w.widths length level, Inverse length (forth · width) (fro · width)) :
    Inverse length (descend forth stage w · level) (ascend fro stage w · level) :=
  ⟨w.undoes_descend power allowed fun width member => (inverse width member).1,
    w.undoes_ascend power allowed fun width member => (inverse width member).2⟩

variable {R : Type} [CommRing R] {w : Wavelet R}

theorem Orthonormal.inverse_filter (orthonormal : w.Orthonormal) (power : length.isPowerOfTwo) :
    Inverse length (w.forward · level) (w.reverse · level) := by
  constructor
  · refine w.undoes_guarded power fun holds xs size => ?_
    have even : xs.length % 2 = 0 := size ▸ w.even_of_holds power holds
    exact ⟨(w.length_analyse even).trans size, orthonormal.synthesise_analyse even⟩
  · refine w.undoes_guarded power fun holds xs size => ?_
    have even : xs.length % 2 = 0 := size ▸ w.even_of_holds power holds
    exact ⟨(w.length_synthesise xs).trans size, orthonormal.analyse_synthesise even⟩

theorem Orthonormal.inverse_pyramid (orthonormal : w.Orthonormal) (power : length.isPowerOfTwo)
    (allowed : LevelAllowed level) :
    Inverse length (w.pyramidForward · level) (w.pyramidReverse · level) := by
  refine inverse_levels power allowed fun width member => ?_
  obtain ⟨narrow, divides, _⟩ := w.mem_widths power member
  have fits : width ≤ length := Nat.le_of_dvd (Nat.pos_of_isPowerOfTwo power) divides
  have filters : Inverse width (w.forward · none) (w.reverse · none) :=
    orthonormal.inverse_filter narrow
  exact ⟨filters.1.onLeading fits, filters.2.onLeading fits⟩

theorem Orthonormal.inverse_packet (orthonormal : w.Orthonormal) (power : length.isPowerOfTwo)
    (allowed : LevelAllowed level) :
    Inverse length (w.packetForward · level) (w.packetReverse · level) := by
  refine inverse_levels power allowed fun width member => ?_
  obtain ⟨narrow, divides, _⟩ := w.mem_widths power member
  have positive : 0 < width := Nat.pos_of_isPowerOfTwo narrow
  have filters : Inverse width (w.forward · none) (w.reverse · none) :=
    orthonormal.inverse_filter narrow
  exact ⟨filters.1.onBlocks positive divides, filters.2.onBlocks positive divides⟩

end Wavelet

namespace Transform
variable {R : Type} [CommRing R] {length : Nat} {level : Option Int}

theorem inverse (t : Transform R) (orthonormal : t.wavelet.Orthonormal)
    (allowed : LevelAllowed level) (accepted : t.Accepts length) :
    Inverse length (t.forward · level) (t.reverse · level) := by
  induction t generalizing length with
  | filter w => exact orthonormal.inverse_filter accepted
  | pyramid w => exact orthonormal.inverse_pyramid accepted allowed
  | packet w => exact orthonormal.inverse_packet accepted allowed
  | decomposed inner ih =>
    have parts : ∀ size ∈ Multipliers.sizes length,
        Inverse size (inner.forward · level) (inner.reverse · level) := fun size member =>
      ih orthonormal (inner.accepts_of_mem_sizes member)
    exact ⟨Undoes.onParts accepted fun size member => (parts size member).1,
      Undoes.onParts accepted fun size member => (parts size member).2⟩

/-- A transform on an orthonormal wavelet and its way back undo each other, in either order, on
every line that the transform takes. -/
theorem round_trips (t : Transform R) (level : Option Int) (xs : List R)
    (orthonormal : t.wavelet.Orthonormal) (allowed : LevelAllowed level)
    (accepted : t.Accepts xs.length) :
    (∃ ys, t.forward xs level = .ok ys ∧ ys.length = xs.length ∧ t.reverse ys level = .ok xs) ∧
      ∃ ys, t.reverse xs level = .ok ys ∧ ys.length = xs.length ∧
        t.forward ys level = .ok xs := by
  obtain ⟨there, back⟩ := t.inverse orthonormal allowed accepted
  exact ⟨there xs rfl, back xs rfl⟩

/-- Seven entries make three parts, and the last of them is too short for the wavelet. -/
theorem round_trips_seven :
    let t : Transform ℝ := .decomposed (.decomposed (.packet Wavelet.haar))
    let xs : List ℝ := [3, 1, 4, 1, 5, 9, 2]
    t.wavelet.Orthonormal ∧ LevelAllowed (some 1) ∧ t.Accepts xs.length ∧
      (∃ ys, t.forward xs (some 1) = .ok ys ∧ ys.length = xs.length ∧
        t.reverse ys (some 1) = .ok xs) ∧
      ∃ ys, t.reverse xs (some 1) = .ok ys ∧ ys.length = xs.length ∧
        t.forward ys (some 1) = .ok xs := by
  intro t xs
  have orthonormal : t.wavelet.Orthonormal := Wavelet.haar_orthonormal
  have allowed : LevelAllowed (some 1) := by
    rintro bound ⟨rfl⟩
    decide
  have accepted : t.Accepts xs.length := by
    change 0 < xs.length
    decide
  exact ⟨orthonormal, allowed, accepted, t.round_trips (some 1) xs orthonormal allowed accepted⟩

end Transform

end GestureLexicon
