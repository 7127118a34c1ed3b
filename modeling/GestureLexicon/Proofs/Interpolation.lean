import GestureLexicon.Proofs.Resampling

/-!
Resampling by its definition. A distance along a path belongs to the first segment that reaches it,
and the sample there lies between the ends of this segment, in the share of it that is behind. The
cursor that walks the segments once finds the segment of every distance, which always exists. Main
statement: `Resample.samples_by_definition`.
-/

namespace GestureLexicon.Resample

/-- The length of the first segments of a path. -/
def reach (lengths : List ℝ) : ℕ → ℝ
  | 0 => 0
  | k + 1 => reach lengths k + lengths.getD k 0

noncomputable def distanceAt (lengths : List ℝ) (count i : ℕ) : ℝ :=
  i * reach lengths lengths.length / (count - 1)

/-- The value between the ends of a segment; on one without length, that at its end. -/
noncomputable def between (values lengths : List ℝ) (k : ℕ) (distance : ℝ) : ℝ :=
  if lengths.getD k 0 = 0 then values.getD (k + 1) 0
  else values.getD k 0 + (values.getD (k + 1) 0 - values.getD k 0) * (distance - reach lengths k) /
    lengths.getD k 0

/-- The samples of a path and the segments they are taken from, computed with some division. -/
structure SampledFrom (division : ℝ → ℝ → ℝ) (values lengths : List ℝ) (count : ℕ)
    (segment : ℕ → ℕ) : Prop where
  first : ∀ i < count, IsLeast
    {k | k < lengths.length ∧ distanceAt lengths count i ≤ reach lengths (k + 1)} (segment i)
  forward : ∀ i j, i ≤ j → j < count → segment i ≤ segment j
  holds : ∀ i < count, reach lengths (segment i) ≤ distanceAt lengths count i ∧
    distanceAt lengths count i ≤ reach lengths (segment i + 1)
  walked : @places ℝ _ _ _ ⟨division⟩ _ lengths count = (List.range count).map fun i =>
    (distanceAt lengths count i, ⟨segment i, reach lengths (segment i)⟩)
  samples : @resample ℝ _ _ _ _ ⟨division⟩ _ values lengths count =
    .ok ((List.range count).map fun i =>
      between values lengths (segment i) (distanceAt lengths count i))

theorem reach_eq_sum (lengths : List ℝ) (k : ℕ) : reach lengths k = (lengths.take k).sum := by
  induction k with
  | zero => simp [reach]
  | succ k ih =>
    by_cases within : k < lengths.length
    · rw [reach, ih, List.sum_take_succ _ _ within, List.getD_eq_getElem _ _ within]
    · have past : lengths.length ≤ k := not_lt.mp within
      rw [reach, ih, List.take_of_length_le past, List.take_of_length_le (past.trans k.le_succ),
        List.getD_eq_default _ _ past, add_zero]

theorem reach_length (lengths : List ℝ) : reach lengths lengths.length = lengths.sum := by
  rw [reach_eq_sum, List.take_length]

section
variable {lengths : List ℝ} {count : ℕ}

theorem targets_eq (asked : 2 ≤ count) :
    targets lengths.sum count = (List.range count).map (distanceAt lengths count) := by
  have parts : ((count - 1 : ℕ) : ℝ) = count - 1 := by
    rw [Nat.cast_sub (by omega), Nat.cast_one]
  apply List.map_congr_left
  intro i _
  unfold distanceAt
  rw [reach_length, ← parts]
  rfl

theorem distanceAt_mono (whole : 0 ≤ lengths.sum) (asked : 2 ≤ count) {i j : ℕ} (ordered : i ≤ j) :
    distanceAt lengths count i ≤ distanceAt lengths count j := by
  have parts : (0 : ℝ) ≤ count - 1 := by
    rw [sub_nonneg, Nat.one_le_cast]
    omega
  unfold distanceAt
  rw [reach_length]
  gcongr

/-- The cursor for a target on the path stands on a segment that holds it. -/
theorem reach_place {target : ℝ} (nonempty : lengths ≠ []) (least : 0 ≤ target)
    (most : target ≤ lengths.sum) :
    (place lengths target).segment < lengths.length ∧
      (place lengths target).offset = reach lengths (place lengths target).segment ∧
        reach lengths (place lengths target).segment ≤ target ∧
          target ≤ reach lengths ((place lengths target).segment + 1) := by
  obtain ⟨within, offset, started, ends⟩ := place_holds nonempty least most
  rw [← reach_eq_sum] at offset
  refine ⟨within, offset, offset ▸ started, ?_⟩
  rw [reach, ← offset, List.getD_eq_getElem _ _ within]
  exact ends

/-- That segment is the first one that reaches the target. -/
theorem isLeast_place {target : ℝ} (nonempty : lengths ≠ []) (least : 0 ≤ target)
    (most : target ≤ lengths.sum) :
    IsLeast {k | k < lengths.length ∧ target ≤ reach lengths (k + 1)}
      (place lengths target).segment := by
  obtain ⟨within, _, _, reached⟩ := reach_place nonempty least most
  refine ⟨⟨within, reached⟩, ?_⟩
  rintro k ⟨_, reached⟩
  by_contra earlier
  have passed : Passed lengths target (place lengths target) :=
    (passed_start lengths target).advance.1
  have before := passed.before k (not_le.mp earlier)
  rw [← reach_eq_sum] at before
  exact before.not_ge reached

theorem place_mono {near far : ℝ} (ordered : near ≤ far) (nonempty : lengths ≠ [])
    (least : 0 ≤ near) (most : far ≤ lengths.sum) :
    (place lengths near).segment ≤ (place lengths far).segment := by
  have first := isLeast_place nonempty least (ordered.trans most)
  obtain ⟨⟨within, reached⟩, _⟩ := isLeast_place nonempty (least.trans ordered) most
  exact first.2 ⟨within, ordered.trans reached⟩

end

section
variable {division : ℝ → ℝ → ℝ} (exact : ∀ x y, y ≠ 0 → division x y = x / y)
include exact

theorem targets_division (total : ℝ) {count : ℕ} (asked : 2 ≤ count) :
    @targets ℝ _ ⟨division⟩ _ total count = targets total count := by
  apply List.map_congr_left
  intro i _
  apply exact
  change ((count - 1 : ℕ) : ℝ) ≠ 0
  exact Nat.cast_ne_zero.mpr (by omega)

/-- A length is divided by only where there is one. -/
theorem valueAt_division (lengths values : Array ℝ) (last target : ℝ) (c : Cursor ℝ) :
    @valueAt ℝ _ _ _ ⟨division⟩ _ lengths values last target c =
      valueAt lengths values last target c := by
  unfold valueAt
  split
  · rename_i length a b _ _ _
    by_cases flat : length = 0
    · have zero : Scalar.isZero length = true := decide_eq_true flat
      rw [if_pos zero, if_pos zero]
    · have divided : division (target - c.offset) length = (target - c.offset) / length :=
        exact _ _ flat
      have nonzero : ¬Scalar.isZero length = true := fun zero => flat (of_decide_eq_true zero)
      rw [if_neg nonzero, if_neg nonzero, ← divided]
      rfl
  · rfl

theorem places_division (lengths : List ℝ) {count : ℕ} (asked : 2 ≤ count) :
    @places ℝ _ _ _ ⟨division⟩ _ lengths count = places lengths count := by
  unfold places
  rw [targets_division exact _ asked]

theorem resample_division (values lengths : List ℝ) {count : ℕ} (asked : 2 ≤ count) :
    @resample ℝ _ _ _ _ ⟨division⟩ _ values lengths count = resample values lengths count := by
  unfold resample
  rw [Int.toNat_natCast, places_division exact _ asked]
  simp only [valueAt_division exact]

end

theorem valueAt_place {values lengths : List ℝ} {target : ℝ}
    (matched : values.length = lengths.length + 1) (nonempty : lengths ≠ []) (least : 0 ≤ target)
    (most : target ≤ lengths.sum) (last : ℝ) :
    valueAt lengths.toArray values.toArray last target (place lengths target) =
      between values lengths (place lengths target).segment target := by
  obtain ⟨within, offset, _, _⟩ := reach_place nonempty least most
  rw [valueAt_eq matched within, offset, ← mul_div_assoc]
  rfl

/-- The cursor that walks a path once finds for each sample the first segment that reaches its
distance, and the sample lies between the ends of it. No quotient by zero is of any account: the
division has to be exact only where there is a divisor. -/
theorem samples_by_definition (division : ℝ → ℝ → ℝ) (values lengths : List ℝ) (count : ℕ)
    (exact : ∀ x y, y ≠ 0 → division x y = x / y) (several : 2 ≤ values.length)
    (matched : lengths.length = values.length - 1) (lasting : ∀ length ∈ lengths, 0 ≤ length)
    (asked : 2 ≤ count) :
    ∃ segment, SampledFrom division values lengths count segment := by
  have nonempty : lengths ≠ [] := by
    rw [← List.length_pos_iff]
    omega
  have whole : 0 ≤ lengths.sum := List.sum_nonneg lasting
  have onPath (i : ℕ) (below : i < count) :
      0 ≤ distanceAt lengths count i ∧ distanceAt lengths count i ≤ lengths.sum := by
    apply mem_targets whole asked
    rw [targets_eq asked]
    exact List.mem_map_of_mem (List.mem_range.mpr below)
  have walked : places lengths count = (List.range count).map fun i =>
      (distanceAt lengths count i, place lengths (distanceAt lengths count i)) := by
    rw [places, pairwiseSum_eq_sum, walk_eq _ (targets_pairwise whole count), targets_eq asked,
      List.map_map]
    rfl
  refine ⟨fun i => (place lengths (distanceAt lengths count i)).segment, ?_, ?_, ?_, ?_, ?_⟩
  · intro i below
    exact isLeast_place nonempty (onPath i below).1 (onPath i below).2
  · intro i j before below
    have further := distanceAt_mono whole asked before
    exact place_mono further nonempty (onPath i (before.trans_lt below)).1 (onPath j below).2
  · intro i below
    exact (reach_place nonempty (onPath i below).1 (onPath i below).2).2.2
  · rw [places_division exact _ asked, walked]
    apply List.map_congr_left
    intro i member
    have below := onPath i (List.mem_range.mp member)
    obtain ⟨_, offset, _⟩ := reach_place nonempty below.1 below.2
    rw [← offset]
  · have enough : ¬values.length < 2 := by omega
    have count_enough : ¬(count : ℤ) < 2 := by omega
    rw [resample_division exact _ _ asked, resample, dif_neg enough, if_neg (not_not.mpr matched),
      if_neg count_enough, Int.toNat_natCast, walked]
    apply congrArg Except.ok
    rw [List.map_map]
    apply List.map_congr_left
    intro i member
    have below := onPath i (List.mem_range.mp member)
    exact valueAt_place (by omega) nonempty below.1 below.2 _

/-- A path that stands still, goes on and stands still again, with a division that is seven wherever
there is no divisor. -/
theorem samples_by_definition_standing :
    let division : ℝ → ℝ → ℝ := fun x y => if y = 0 then 7 else x / y
    (∀ x y, y ≠ 0 → division x y = x / y) ∧ (∀ length ∈ [(0 : ℝ), 3, 0], 0 ≤ length) ∧
      ∃ segment, SampledFrom division [1, 1, 4, 4] [0, 3, 0] 4 segment := by
  intro division
  have exact : ∀ x y, y ≠ 0 → division x y = x / y := fun x y nonzero => if_neg nonzero
  have lasting : ∀ length ∈ [(0 : ℝ), 3, 0], 0 ≤ length := by simp
  exact ⟨exact, lasting, samples_by_definition division [1, 1, 4, 4] [0, 3, 0] 4 exact (by decide)
    rfl lasting (by decide)⟩

end GestureLexicon.Resample
