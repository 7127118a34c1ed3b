import GestureLexicon.Proofs.Reversal

/-!
What the samples of a path keep of it. They start and end where the path does, never leave the range
of its values, keep their order where these are in order, and are no further apart than the path is
long between them. Main statement: `Resample.samples_follow_path`.
-/

namespace GestureLexicon

namespace Path

theorem exists_getElem_of_mem_steps {xs : List ℝ} {step : ℝ} (member : step ∈ steps xs) :
    ∃ (i : ℕ) (second : i + 1 < xs.length), step = xs[i + 1] - xs[i] := by
  obtain ⟨i, below, rfl⟩ := List.getElem_of_mem member
  have second : i + 1 < xs.length := by
    rw [length_steps] at below
    omega
  exact ⟨i, second, getElem_steps below second⟩

theorem steps_nonneg {xs : List ℝ} (rising : xs.SortedLE) : ∀ step ∈ steps xs, 0 ≤ step := by
  intro step member
  obtain ⟨i, second, rfl⟩ := exists_getElem_of_mem_steps member
  exact sub_nonneg.mpr (rising.getElem_le_getElem_of_le i.le_succ)

theorem steps_nonpos {xs : List ℝ} (falling : xs.SortedGE) : ∀ step ∈ steps xs, step ≤ 0 := by
  intro step member
  obtain ⟨i, second, rfl⟩ := exists_getElem_of_mem_steps member
  exact sub_nonpos.mpr (falling.getElem_ge_getElem_of_le i.le_succ)

end Path

namespace OnPath
variable {values lengths : List ℝ} {rate d e v u : ℝ}

theorem Gentle.reverse (gentle : Gentle rate values lengths) :
    Gentle rate values.reverse lengths.reverse := by
  rw [Gentle, Path.steps_reverse, List.forall₂_map_left_iff, List.forall₂_reverse_iff]
  simp only [abs_neg]
  exact gentle

theorem Gentle.nonneg (gentle : Gentle 1 values lengths) : ∀ length ∈ lengths, 0 ≤ length := by
  intro length member
  obtain ⟨i, below, rfl⟩ := List.getElem_of_mem member
  have steep := gentle.get (gentle.length_eq.symm ▸ below) below
  rw [one_mul] at steep
  exact (abs_nonneg _).trans steep

theorem head?_eq (on : OnPath values lengths d v) : values.head? = some (values.headD 0) := by
  cases on <;> rfl

theorem eq_first (gentle : Gentle rate values lengths) (on : OnPath values lengths 0 v) :
    values.head? = some v := by
  have near := on.near_first gentle
  rw [mul_zero, abs_nonpos_iff, sub_eq_zero] at near
  rw [on.head?_eq, near]

theorem eq_last (gentle : Gentle rate values lengths) (matched : values.length = lengths.length + 1)
    (on : OnPath values lengths lengths.sum v) : values.getLast? = some v := by
  have back := on.reverse matched
  rw [sub_self] at back
  rw [← List.head?_reverse]
  exact back.eq_first gentle.reverse

theorem within_bounds {least greatest : ℝ} (bounds : ∀ x ∈ values, least ≤ x ∧ x ≤ greatest)
    (on : OnPath values lengths d v) : least ≤ v ∧ v ≤ greatest := by
  induction on with
  | @here a b length share values lengths positive most =>
    simp only [List.forall_mem_cons] at bounds
    obtain ⟨first, second, _⟩ := bounds
    have left : 0 ≤ 1 - share := sub_nonneg.mpr most
    have mixed : a + share * (b - a) = (1 - share) * a + share * b := by ring
    have total (x : ℝ) : (1 - share) * x + share * x = x := by ring
    rw [mixed]
    constructor
    · rw [← total least]
      gcongr
      exacts [first.1, second.1]
    · rw [← total greatest]
      gcongr
      exacts [first.2, second.2]
  | later _ ih => exact ih (List.forall_mem_cons.mp bounds).2

section
variable {sign : ℝ} (steady : ∀ step ∈ Path.steps values, 0 ≤ sign * step)
include steady

theorem past_first (on : OnPath values lengths d v) : 0 ≤ sign * (v - values.headD 0) := by
  induction on with
  | @here a b length share values lengths positive most =>
    have step := steady (b - a) List.mem_cons_self
    calc 0
      _ ≤ share * (sign * (b - a)) := mul_nonneg positive step
      _ = sign * (a + share * (b - a) - a) := by ring
  | @later a b length distance value values lengths _ ih =>
    have step := steady (b - a) List.mem_cons_self
    have rest := ih fun step member => steady step (List.mem_cons_of_mem _ member)
    calc 0
      _ ≤ sign * (value - b) + sign * (b - a) := add_nonneg rest step
      _ = sign * (value - a) := by ring

theorem onward (nonneg : 0 ≤ rate) (gentle : Gentle rate values lengths)
    (on : OnPath values lengths d v) (onOther : OnPath values lengths e u) (ordered : d ≤ e) :
    0 ≤ sign * (u - v) := by
  induction on generalizing e u with
  | @here a b length share values lengths positive most =>
    have step := steady (b - a) List.mem_cons_self
    cases onOther with
    | @here _ _ _ other _ _ _ _ =>
      have apart : sign * (a + other * (b - a) - (a + share * (b - a))) =
          (other - share) * (sign * (b - a)) := by ring
      rw [apart]
      rcases le_or_gt share other with further | back
      · exact mul_nonneg (sub_nonneg.mpr further) step
      · -- The larger share reaches no further only where there is no length, and so no step.
        have short : length ≤ 0 := by
          by_contra long
          exact ordered.not_gt (mul_lt_mul_of_pos_right back (not_le.mp long))
        obtain ⟨bound, _⟩ := gentle_cons.mp gentle
        have still := bound.trans (mul_nonpos_of_nonneg_of_nonpos nonneg short)
        rw [abs_nonpos_iff.mp still, mul_zero, mul_zero]
    | later onRest =>
      have rest := onRest.past_first fun step member => steady step (List.mem_cons_of_mem _ member)
      have left : 0 ≤ 1 - share := sub_nonneg.mpr most
      calc 0
        _ ≤ sign * (u - b) + (1 - share) * (sign * (b - a)) :=
          add_nonneg rest (mul_nonneg left step)
        _ = sign * (u - (a + share * (b - a))) := by ring
  | @later a b length distance value values lengths on ih =>
    cases onOther with
    | here _ most =>
      -- The two distances meet at the end of the first segment.
      have near := near_later most gentle on
      have met := near.trans (mul_nonpos_of_nonneg_of_nonpos nonneg (sub_nonpos.mpr ordered))
      rw [abs_nonpos_iff.mp met, mul_zero]
    | later onRest =>
      exact ih (fun step member => steady step (List.mem_cons_of_mem _ member))
        (gentle_cons.mp gentle).2 onRest (le_of_add_le_add_left ordered)

end

end OnPath

namespace Resample
variable {values lengths samples : List ℝ} {count : ℕ}

/-- Each sample is the value at its distance, which is a number of even shares of the length. -/
theorem onPath_sample
    (on : List.Forall₂ (OnPath values lengths) (targets lengths.sum count) samples)
    {i : ℕ} (below : i < samples.length) :
    OnPath values lengths (i * lengths.sum / (count - 1 : ℕ)) samples[i] := by
  have within : i < (targets lengths.sum count).length := on.length_eq ▸ below
  have found := on.get within below
  rw [List.get_eq_getElem, List.get_eq_getElem, getElem_targets] at found
  exact found

theorem exists_bounds (filled : values ≠ []) :
    ∃ least ∈ values, ∃ greatest ∈ values, ∀ x ∈ values, least ≤ x ∧ x ≤ greatest := by
  have nonempty : values.toFinset.Nonempty := List.toFinset_nonempty_iff _ |>.mpr filled
  obtain ⟨least, lowest, below⟩ := values.toFinset.exists_min_image id nonempty
  obtain ⟨greatest, highest, above⟩ := values.toFinset.exists_max_image id nonempty
  simp only [List.mem_toFinset] at lowest below highest above
  exact ⟨least, lowest, greatest, highest, fun x member => ⟨below x member, above x member⟩⟩

section
variable (gentle : OnPath.Gentle 1 values lengths)
  (sent : resample values lengths count = .ok samples)
include gentle sent

theorem head?_samples : samples.head? = values.head? := by
  obtain ⟨_, _, several, on⟩ := resample_onPath gentle.nonneg sent
  have size := length_of_resample sent
  have first := onPath_sample on (by omega : 0 < samples.length)
  rw [Nat.cast_zero, zero_mul, zero_div] at first
  rw [first.eq_first gentle, List.head?_eq_getElem?, List.getElem?_eq_getElem]

theorem getLast?_samples : samples.getLast? = values.getLast? := by
  obtain ⟨matched, _, several, on⟩ := resample_onPath gentle.nonneg sent
  have size := length_of_resample sent
  have parts : ((count - 1 : ℕ) : ℝ) ≠ 0 := Nat.cast_ne_zero.mpr (by omega)
  have last := onPath_sample on (by omega : count - 1 < samples.length)
  rw [mul_div_cancel_left₀ _ parts] at last
  have final : samples.getLast? = samples[count - 1]? := by rw [List.getLast?_eq_getElem?, size]
  rw [last.eq_last gentle matched, final, List.getElem?_eq_getElem]

theorem abs_step_samples_le : ∀ step ∈ Path.steps samples, |step| ≤ lengths.sum / (count - 1) := by
  obtain ⟨_, _, several, on⟩ := resample_onPath gentle.nonneg sent
  have whole : 0 ≤ lengths.sum := List.sum_nonneg gentle.nonneg
  have parts : ((count - 1 : ℕ) : ℝ) = count - 1 := by
    rw [Nat.cast_sub (by omega), Nat.cast_one]
  have share : 0 ≤ lengths.sum / ((count - 1 : ℕ) : ℝ) := by positivity
  intro step member
  obtain ⟨i, second, rfl⟩ := Path.exists_getElem_of_mem_steps member
  have near := (onPath_sample on second).lipschitz zero_le_one gentle
    (onPath_sample on (i.lt_succ_self.trans second))
  have apart : ((i + 1 : ℕ) : ℝ) * lengths.sum / (count - 1 : ℕ) -
      i * lengths.sum / (count - 1 : ℕ) = lengths.sum / (count - 1 : ℕ) := by
    rw [Nat.cast_succ]
    ring
  rwa [one_mul, apart, abs_of_nonneg share, parts] at near

theorem samples_within_bounds {least greatest : ℝ}
    (bounds : ∀ x ∈ values, least ≤ x ∧ x ≤ greatest) :
    ∀ r ∈ samples, least ≤ r ∧ r ≤ greatest := by
  obtain ⟨_, _, _, on⟩ := resample_onPath gentle.nonneg sent
  intro r member
  obtain ⟨i, below, rfl⟩ := List.getElem_of_mem member
  exact (onPath_sample on below).within_bounds bounds

theorem samples_onward {sign : ℝ} (steady : ∀ step ∈ Path.steps values, 0 ≤ sign * step) {i j : ℕ}
    (ordered : i ≤ j) (below : j < samples.length) :
    0 ≤ sign * (samples[j] - samples[i]) := by
  obtain ⟨_, _, _, on⟩ := resample_onPath gentle.nonneg sent
  have whole : 0 ≤ lengths.sum := List.sum_nonneg gentle.nonneg
  refine (onPath_sample on (ordered.trans_lt below)).onward steady zero_le_one gentle
    (onPath_sample on below) ?_
  gcongr

theorem sortedLE_samples (rising : values.SortedLE) : samples.SortedLE := by
  have steady : ∀ step ∈ Path.steps values, 0 ≤ 1 * step := by
    simpa only [one_mul] using Path.steps_nonneg rising
  refine List.sortedLE_of_getElem_le_getElem_of_le fun i j _ below ordered => ?_
  have onward := samples_onward gentle sent steady ordered below
  rwa [one_mul, sub_nonneg] at onward

theorem sortedGE_samples (falling : values.SortedGE) : samples.SortedGE := by
  have steady : ∀ step ∈ Path.steps values, 0 ≤ -1 * step := by
    simpa only [neg_one_mul, neg_nonneg] using Path.steps_nonpos falling
  refine List.sortedGE_of_getElem_ge_getElem_of_le fun i j below _ ordered => ?_
  have onward := samples_onward gentle sent steady ordered below
  rwa [neg_one_mul, neg_sub, sub_nonneg] at onward

end

/-- The segments of a path are as long at least as their ends are apart on either axis. On such
segments the samples of any values start with the first of these and end with the last, no two
neighbours are further apart than an even share of the length, none is less than the least or
greater than the greatest value, and they are in order where the values are. -/
theorem samples_follow_path :
    (∀ xs ys lengths : List ℝ, Path.segmentLengths xs ys = .ok lengths →
      OnPath.Gentle 1 xs lengths ∧ OnPath.Gentle 1 ys lengths) ∧
    ∀ (values lengths : List ℝ) (count : ℕ), 2 ≤ values.length → OnPath.Gentle 1 values lengths →
      2 ≤ count → ∃ samples, resample values lengths count = .ok samples ∧ samples.length = count ∧
        samples.head? = values.head? ∧ samples.getLast? = values.getLast? ∧
        (∀ step ∈ Path.steps samples, |step| ≤ lengths.sum / (count - 1)) ∧
        (∃ least ∈ values, ∃ greatest ∈ values, (∀ x ∈ values, least ≤ x ∧ x ≤ greatest) ∧
          ∀ r ∈ samples, least ≤ r ∧ r ≤ greatest) ∧
        (values.SortedLE → samples.SortedLE) ∧ (values.SortedGE → samples.SortedGE) := by
  refine ⟨fun xs ys lengths measured => ?_, fun values lengths count several gentle asked => ?_⟩
  · obtain ⟨gentleX, gentleY, _⟩ := Path.gentle_segmentLengths measured
    exact ⟨gentleX, gentleY⟩
  · have matched : lengths.length = values.length - 1 := by
      rw [← gentle.length_eq, Path.length_steps]
    obtain ⟨samples, sent, size⟩ := resample_ok several matched asked
    have nonempty : values ≠ [] := List.ne_nil_of_length_pos (by omega)
    obtain ⟨least, lowest, greatest, highest, bounds⟩ := exists_bounds nonempty
    exact ⟨samples, sent, size, head?_samples gentle sent, getLast?_samples gentle sent,
      abs_step_samples_le gentle sent, ⟨least, lowest, greatest, highest, bounds,
        samples_within_bounds gentle sent bounds⟩, sortedLE_samples gentle sent,
      sortedGE_samples gentle sent⟩

/-- A path that stands still and then rises, also across the other axis. -/
theorem samples_follow_path_rising :
    OnPath.Gentle 1 [2, 2, 5] [0, 4] ∧ ∃ samples : List ℝ,
      resample [2, 2, 5] [0, 4] (7 : ℕ) = .ok samples ∧ samples.head? = some 2 ∧
        samples.getLast? = some 5 ∧ (∀ step ∈ Path.steps samples, |step| ≤ 2 / 3) ∧
          samples.SortedLE := by
  have gentle : OnPath.Gentle 1 [2, 2, 5] [0, 4] := by
    norm_num [OnPath.Gentle, Path.steps]
  have rising : [(2 : ℝ), 2, 5].SortedLE := by
    norm_num [List.sortedLE_iff_pairwise]
  obtain ⟨samples, sent, _, first, last, near, _, ordered, _⟩ :=
    samples_follow_path.2 [2, 2, 5] [0, 4] 7 (by decide) gentle (by decide)
  refine ⟨gentle, samples, sent, first, last, ?_, ordered rising⟩
  norm_num at near
  exact near

end Resample

end GestureLexicon
