import GestureLexicon.Proofs.Bands

/-!
Decomposing what is decomposed already. The parts of a line are powers of two, and a power of two is
one part, so a decomposed transform that is decomposed once more cuts nothing again; on a line that
is one part from the start it is the transform itself. This holds of what is refused, too. Main
statement: `Transform.decomposed_once`.
-/

namespace GestureLexicon
variable {α : Type}

/-- Steps that agree on lines of each size agree on pieces of these sizes. -/
theorem onPieces_congr {step same : List α → Except TransformError (List α)} {sizes : List ℕ}
    (equal : ∀ size ∈ sizes, ∀ ys, ys.length = size → same ys = step ys) {xs : List α}
    (total : sizes.sum ≤ xs.length) : onPieces same sizes xs = onPieces step sizes xs := by
  induction sizes generalizing xs with
  | nil => rfl
  | cons size sizes ih =>
    obtain ⟨first, rest⟩ := List.forall_mem_cons.mp equal
    rw [List.sum_cons] at total
    have sized : (xs.take size).length = size := List.length_take_of_le (by omega)
    rw [onPieces_cons, onPieces_cons, first _ sized,
      ih rest (by rw [List.length_drop]; omega)]

namespace LineTransform
variable (t : LineTransform α) (d : Direction) (level : Option ℤ)

theorem step_decomposed_nil : t.decomposed.step d level [] = .error .emptySignal := by
  cases d <;> rfl

/-- A line that is one part is transformed as that part. -/
theorem step_decomposed_of_isPowerOfTwo {xs : List α} (power : xs.length.isPowerOfTwo) :
    t.decomposed.step d level xs = if xs.length = 1 then .ok xs else t.step d level xs := by
  cases d with
  | forward => exact onParts_eq_onPart t.forward power level
  | reverse => exact onParts_eq_onPart t.reverse power level

theorem step_decomposed_eq_onPieces {xs : List α} (filled : 0 < xs.length) :
    t.decomposed.step d level xs = onPieces
      (fun piece => if piece.length = 1 then .ok piece else t.step d level piece)
        (Multipliers.sizes xs.length) xs := by
  cases d with
  | forward => exact onParts_eq_onPieces t.forward filled level
  | reverse => exact onParts_eq_onPieces t.reverse filled level

theorem step_decomposed_decomposed (xs : List α) :
    t.decomposed.decomposed.step d level xs = t.decomposed.step d level xs := by
  by_cases empty : xs = []
  · rw [empty, step_decomposed_nil, step_decomposed_nil]
  · have filled : 0 < xs.length := List.length_pos_iff.mpr empty
    rw [step_decomposed_eq_onPieces _ d level filled, step_decomposed_eq_onPieces _ d level filled]
    -- A part is a power of two long, so that cutting it once more leaves it whole.
    refine onPieces_congr (fun size member piece sized => ?_) (Multipliers.sum_sizes _).le
    have power : piece.length.isPowerOfTwo :=
      sized ▸ Multipliers.isPowerOfTwo_of_mem_sizes member
    rw [t.step_decomposed_of_isPowerOfTwo d level power]
    split <;> rfl

end LineTransform

theorem Wavelet.levelCount_one (w : Wavelet α) {level : Option ℤ} (allowed : LevelAllowed level) :
    w.levelCount (1 : ℕ) level = 0 := by
  have shallow := w.depth_one
  have least := w.levelCount_nonneg 1 allowed
  have most := w.levelCount_le 1 level
  omega

namespace Transform
variable [Zero α] [Add α] [Mul α] [Neg α] (t : Transform α) {d : Direction} {level : Option ℤ}

theorem step_single (allowed : LevelAllowed level) {xs : List α} (single : xs.length = 1) :
    t.line.step d level xs = .ok xs := by
  have power : xs.length.isPowerOfTwo := single ▸ ⟨0, rfl⟩
  have leveled {t : Transform α} {w : Wavelet α} {stage : Stage} {onBands : Wavelet.Banding α}
      (filters : t.FiltersBands w stage onBands) : t.line.step d level xs = .ok xs := by
    have same : w.levelCount xs.length level = w.levelCount xs.length (some (0 : ℕ)) := by
      rw [single]
      exact (w.levelCount_one allowed).trans (w.levelCount_one (levelAllowed_some 0)).symm
    exact (filters.step_congr same d).trans (filters.step_zero power d)
  cases t with
  | filter w =>
    have short : w.Passes xs.length level := .inr (single ▸ w.two_le_waveLength)
    cases d with
    | forward => exact (w.guarded_of_isPowerOfTwo _ power level).trans (if_pos short)
    | reverse => exact (w.guarded_of_isPowerOfTwo _ power level).trans (if_pos short)
  | pyramid w => exact leveled (filtersBands_pyramid w)
  | packet w => exact leveled (filtersBands_packet w)
  | decomposed inner =>
    exact (inner.line.step_decomposed_of_isPowerOfTwo d level power).trans (if_pos single)

/-- A transform that is decomposed twice does what it does decomposed once, and on a line that is a
power of two long it does what it does as it is, in both directions and with whatever is refused. -/
theorem decomposed_once :
    (∀ (t : Transform α) (d : Direction) (level : Option ℤ) (xs : List α),
      (decomposed (decomposed t)).line.step d level xs = (decomposed t).line.step d level xs) ∧
    ∀ (t : Transform α) (d : Direction) (level : Option ℤ) (xs : List α), LevelAllowed level →
      xs.length.isPowerOfTwo → (decomposed t).line.step d level xs = t.line.step d level xs := by
  refine ⟨fun t d level xs => t.line.step_decomposed_decomposed d level xs, ?_⟩
  intro t d level xs allowed power
  refine (t.line.step_decomposed_of_isPowerOfTwo d level power).trans ?_
  split
  · next single => exact (t.step_single allowed single).symm
  · rfl

/-- Six entries in two parts, and four that are one part. -/
theorem decomposed_once_six :
    let t : Transform ℤ := .packet ⟨none, [1, 1], le_rfl, rfl⟩
    (decomposed (decomposed t)).line.step .forward (some 1) [3, 1, 4, 1, 5, 9] =
        (decomposed t).line.step .forward (some 1) [3, 1, 4, 1, 5, 9] ∧
      LevelAllowed (some 1) ∧ [3, 1, 4, 1].length.isPowerOfTwo ∧
        (decomposed t).line.step .reverse (some 1) [3, 1, 4, 1] =
          t.line.step .reverse (some 1) [3, 1, 4, 1] := by
  intro t
  obtain ⟨twice, whole⟩ := @decomposed_once ℤ _ _ _ _
  have allowed : LevelAllowed (some 1) := levelAllowed_some 1
  have power : [3, 1, 4, 1].length.isPowerOfTwo := ⟨2, rfl⟩
  exact ⟨twice t _ _ _, allowed, power, whole t _ _ _ allowed power⟩

end Transform

end GestureLexicon
