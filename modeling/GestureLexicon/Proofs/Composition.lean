import GestureLexicon.Proofs.LineTransform

/-!
Properties of steps that carry over to whatever is composed of such steps: one step after another,
and two steps side by side on the two parts of a line. Every transform is composed of filter steps
in this way, so a property that a filter step has at every width is one of the transform, and of its
way back.
-/

namespace GestureLexicon
variable {α : Type}

def beside (width : ℕ) (step next : List α → Except TransformError (List α)) (xs : List α) :
    Except TransformError (List α) := do
  let first ← step (xs.take width)
  let rest ← next (xs.drop width)
  return first ++ rest

/-- A property of steps on lines of a length that composed steps have with their parts. -/
structure Composable (holds : ℕ → (List α → Except TransformError (List α)) → Prop) : Prop where
  pass : ∀ length, holds length .ok
  congr : ∀ {length : ℕ} {step same : List α → Except TransformError (List α)}, holds length step →
    (∀ xs, xs.length = length → same xs = step xs) → holds length same
  bind : ∀ {length : ℕ} {step next : List α → Except TransformError (List α)}, holds length step →
    holds length next → holds length (step · >>= next)
  beside : ∀ {width length : ℕ} {step next : List α → Except TransformError (List α)},
    holds width step → holds length next → holds (width + length) (beside width step next)

namespace Composable
variable {holds : ℕ → (List α → Except TransformError (List α)) → Prop} {length width : ℕ}
  {step : List α → Except TransformError (List α)}

section
variable (composable : Composable holds)
include composable

theorem foldlM {pass : List α → ℕ → Except TransformError (List α)} {widths : List ℕ}
    (each : ∀ width ∈ widths, holds length (pass · width)) :
    holds length (widths.foldlM pass ·) := by
  induction widths with
  | nil => exact composable.pass length
  | cons width widths ih =>
    rw [List.forall_mem_cons] at each
    exact composable.bind each.1 (ih each.2)

theorem onLeading (leading : holds width step) (fits : width ≤ length) :
    holds length (Wavelet.onLeading step · width) := by
  obtain ⟨rest, rfl⟩ := Nat.exists_eq_add_of_le fits
  refine composable.congr (composable.beside leading (composable.pass rest)) fun xs _ => ?_
  unfold Wavelet.onLeading GestureLexicon.beside
  cases step (xs.take width) <;> rfl

theorem onPieces {sizes : List ℕ} (each : ∀ size ∈ sizes, holds size step) :
    holds sizes.sum (onPieces step sizes) := by
  induction sizes with
  | nil =>
    refine composable.congr (composable.pass 0) fun xs empty => ?_
    obtain rfl := List.length_eq_zero_iff.mp empty
    rfl
  | cons size sizes ih =>
    rw [List.forall_mem_cons] at each
    rw [List.sum_cons]
    exact composable.congr (composable.beside each.1 (ih each.2)) fun xs _ =>
      onPieces_cons step size sizes xs

theorem onBlocks (block : holds width step) (positive : 0 < width) (divides : width ∣ length) :
    holds length (Wavelet.onBlocks step · width) := by
  have total : (List.replicate (length / width) width).sum = length := by
    rw [List.sum_replicate, smul_eq_mul, Nat.div_mul_cancel divides]
  have equal : ∀ size ∈ List.replicate (length / width) width, holds size step :=
    fun size member => (List.eq_of_mem_replicate member).symm ▸ block
  have pieces := composable.onPieces equal
  rw [total] at pieces
  refine composable.congr pieces fun xs size => ?_
  rw [onBlocks_eq_onPieces step positive (size ▸ divides), size]

theorem onParts {step : List α → Option Int → Except TransformError (List α)}
    {level : Option Int} (positive : 0 < length)
    (each : ∀ size ∈ Multipliers.sizes length, holds size (step · level)) :
    holds length (LineTransform.onParts step · level) := by
  have parts : ∀ size ∈ Multipliers.sizes length, holds size (onPart step level) := by
    intro size member
    by_cases one : size = 1
    · exact composable.congr (composable.pass size) fun xs sized => if_pos (sized.trans one)
    · exact composable.congr (each size member) fun xs sized => if_neg (sized ▸ one)
  have pieces := composable.onPieces parts
  rw [Multipliers.sum_sizes] at pieces
  refine composable.congr pieces fun xs size => ?_
  rw [onParts_eq_onPieces step (size ▸ positive), size]

variable (w : Wavelet α) {level : Option Int}

theorem guarded {filter : List α → List α} (power : length.isPowerOfTwo)
    (filtered : w.waveLength ≤ length → holds length (.ok <| filter ·)) :
    holds length (Wavelet.guarded filter w · level) := by
  by_cases passes : w.Passes length level
  · refine composable.congr (composable.pass length) fun xs size => ?_
    rw [w.guarded_of_isPowerOfTwo _ (size ▸ power), if_pos (size ▸ passes)]
  · have wide : w.waveLength ≤ length := not_lt.mp fun short => passes (.inr short)
    refine composable.congr (filtered wide) fun xs size => ?_
    rw [w.guarded_of_isPowerOfTwo _ (size ▸ power), if_neg (size ▸ passes)]

variable {pass : List α → ℕ → Except TransformError (List α)} {stage : Stage}

theorem descend (power : length.isPowerOfTwo)
    (each : ∀ width ∈ w.widths length level, holds length (pass · width)) :
    holds length (Wavelet.descend pass stage w · level) := by
  refine composable.congr (composable.foldlM each) fun xs size => ?_
  rw [w.descend_eq _ _ (size ▸ power), size]

theorem ascend (power : length.isPowerOfTwo) (allowed : LevelAllowed level)
    (each : ∀ width ∈ w.widths length level, holds length (pass · width)) :
    holds length (Wavelet.ascend pass stage w · level) := by
  have back := composable.foldlM fun width member => each width (List.mem_reverse.mp member)
  refine composable.congr back fun xs size => ?_
  rw [w.ascend_eq _ _ (size ▸ power) allowed, size]

variable [Zero α] [Add α] [Mul α] [Neg α]

theorem forward (t : Transform α) (accepted : t.Accepts length)
    (filtered : ∀ width, width.isPowerOfTwo → t.wavelet.waveLength ≤ width →
      holds width (.ok <| t.wavelet.analyse ·)) : holds length (t.forward · level) := by
  induction t generalizing length level with
  | filter w => exact composable.guarded w accepted (filtered length accepted)
  | pyramid w =>
    refine composable.descend w accepted fun width member => ?_
    obtain ⟨narrow, divides, _⟩ := w.mem_widths accepted member
    apply composable.onLeading (composable.guarded w narrow (filtered width narrow))
    exact Nat.le_of_dvd (Nat.pos_of_isPowerOfTwo accepted) divides
  | packet w =>
    refine composable.descend w accepted fun width member => ?_
    obtain ⟨narrow, divides, _⟩ := w.mem_widths accepted member
    exact composable.onBlocks (composable.guarded w narrow (filtered width narrow))
      (Nat.pos_of_isPowerOfTwo narrow) divides
  | decomposed inner ih =>
    exact composable.onParts accepted fun size member =>
      ih (inner.accepts_of_mem_sizes member) filtered

theorem reverse (t : Transform α) (allowed : LevelAllowed level) (accepted : t.Accepts length)
    (filtered : ∀ width, width.isPowerOfTwo → t.wavelet.waveLength ≤ width →
      holds width (.ok <| t.wavelet.synthesise ·)) : holds length (t.reverse · level) := by
  induction t generalizing length with
  | filter w => exact composable.guarded w accepted (filtered length accepted)
  | pyramid w =>
    refine composable.ascend w accepted allowed fun width member => ?_
    obtain ⟨narrow, divides, _⟩ := w.mem_widths accepted member
    apply composable.onLeading (composable.guarded w narrow (filtered width narrow))
    exact Nat.le_of_dvd (Nat.pos_of_isPowerOfTwo accepted) divides
  | packet w =>
    refine composable.ascend w accepted allowed fun width member => ?_
    obtain ⟨narrow, divides, _⟩ := w.mem_widths accepted member
    exact composable.onBlocks (composable.guarded w narrow (filtered width narrow))
      (Nat.pos_of_isPowerOfTwo narrow) divides
  | decomposed inner ih =>
    exact composable.onParts accepted fun size member =>
      ih (inner.accepts_of_mem_sizes member) filtered

end

end Composable

end GestureLexicon
