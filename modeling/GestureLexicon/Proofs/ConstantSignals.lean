import GestureLexicon.Proofs.LeadingSums
import GestureLexicon.Proofs.Parts

/-!
Signals that do not change. Coefficients meet a constant signal with their sum at every place, so
where the detail coefficients cancel each other a filter step leaves a constant again, in half as
many places, and zeros after it; zeros stay zeros. The numbers may be those of a ring or of any other
kind that adds and multiplies these as the ring does.
-/

namespace GestureLexicon
variable {α R : Type}

/-- The numbers of a ring as numbers of another kind, with the sums and products that they have in
the ring. Nothing is assumed of other numbers of that kind. -/
structure Carries [CommRing R] [Zero α] [Add α] [Mul α] [Neg α] (f : R → α) : Prop where
  zero : f 0 = 0
  add : ∀ x y, f (x + y) = f x + f y
  mul : ∀ x y, f (x * y) = f x * f y
  neg : ∀ x, f (-x) = -f x

theorem carries_id [CommRing R] : Carries (id : R → R) :=
  ⟨rfl, fun _ _ => rfl, fun _ _ => rfl, fun _ => rfl⟩

def leadingBand [Zero α] (length width : ℕ) (value : α) : List α :=
  .replicate width value ++ .replicate (length - width) 0

theorem leadingBand_zero [Zero α] {length width : ℕ} (within : width ≤ length) :
    leadingBand length width (0 : α) = .replicate length 0 := by
  rw [leadingBand, List.replicate_append_replicate, Nat.add_sub_cancel' within]

theorem leadingBand_length [Zero α] (length : ℕ) (value : α) :
    leadingBand length length value = .replicate length value := by
  rw [leadingBand, Nat.sub_self, List.replicate_zero, List.append_nil]

theorem Wavelet.depth_congr {v : Wavelet α} {w : Wavelet R} (same : v.waveLength = w.waveLength)
    (length : ℕ) : v.depth length = w.depth length := by
  fun_induction w.depth length with
  | case1 length holds ih => rw [v.depth_of_le (same ▸ holds), ih]
  | case2 length short => exact v.depth_of_lt (same ▸ not_le.mp short)

theorem Wavelet.levelCount_congr {v : Wavelet α} {w : Wavelet R}
    (same : v.waveLength = w.waveLength) (length : ℤ) (level : Option ℤ) :
    v.levelCount length level = w.levelCount length level := by
  unfold levelCount
  rw [depth_congr same]

theorem Wavelet.waveLength_image {v : Wavelet α} {w : Wavelet R} {f : R → α}
    (image : v.scales = w.scales.map f) : v.waveLength = w.waveLength := by
  rw [waveLength, image, List.length_map, waveLength]

/-- A way to apply a step to bands that leaves zeros behind the leading band alone if the step
does. -/
def Wavelet.LeavesZeros [Zero α] (onBands : Wavelet.Banding α) : Prop :=
  ∀ {step : List α → Except TransformError (List α)} {width : ℕ} {band out : List α} (count : ℕ),
    0 < width → band.length = width → step band = .ok out →
      step (.replicate width 0) = .ok (.replicate width 0) →
        onBands step (band ++ .replicate (width * count) 0) width =
          .ok (out ++ .replicate (width * count) 0)

theorem Wavelet.leavesZeros_onLeading [Zero α] : LeavesZeros (onLeading : Banding α) := by
  intro step width band out count _ size sent _
  rw [onLeading, List.take_left' size, List.drop_left' size, sent]
  rfl

theorem Wavelet.leavesZeros_onBlocks [Zero α] : LeavesZeros (onBlocks : Banding α) := by
  intro step width band out count positive size sent zeros
  have opened (band rest : List α) (size : band.length = width) :
      onBlocks step (band ++ rest) width = do
        let first ← step band
        let rest ← onBlocks step rest width
        return first ++ rest := by
    have filled : 0 < (band ++ rest).length := by
      rw [List.length_append]
      omega
    rw [onBlocks_cons positive filled, List.take_left' size, List.drop_left' size]
  have rest : onBlocks step (.replicate (width * count) 0) width =
      .ok (.replicate (width * count) 0) := by
    induction count with
    | zero => exact onBlocks_nil
    | succ count ih =>
      rw [Nat.mul_succ, Nat.add_comm, ← List.replicate_append_replicate,
        opened _ _ List.length_replicate, zeros, ih]
      rfl
  rw [opened _ _ size, sent, rest]
  rfl

variable [CommRing R]

theorem Wavelet.sum_coeffs (w : Wavelet R) : w.coeffs.sum = -w.scales.alternatingSum := by
  have alternate (l : List R) :
      (l.mapIdx fun i h => if i % 2 = 0 then h else -h).sum = l.alternatingSum := by
    induction l with
    | nil => rfl
    | cons h l ih =>
      have next : (l.mapIdx fun i h => if (i + 1) % 2 = 0 then h else -h) =
          (l.mapIdx fun i h => if i % 2 = 0 then h else -h).map (- ·) := by
        apply List.ext_getElem
        · simp
        · intro i _ _
          rcases Nat.mod_two_eq_zero_or_one i with zero | one
          · simp [Nat.add_mod, zero]
          · simp [Nat.add_mod, one]
      rw [List.mapIdx_cons, next, List.sum_cons, ← List.sum_neg, ih, List.alternatingSum_cons']
      rfl
  have odd : Odd (w.scales.length + 1) := (Nat.even_iff.mpr w.even).add_one
  rw [coeffs, alternate, List.alternatingSum_reverse, odd.neg_one_pow, neg_one_smul]

/-- The coefficients of a constant signal of a power-of-two length: a multiple of the constant on the
band that the last pass leaves, and zeros. -/
def Wavelet.settled (w : Wavelet R) (level : Option ℤ) (c : R) (length : ℕ) : List R :=
  let passes := (w.levelCount length level).toNat
  leadingBand length (length >>> passes) (c * w.scales.sum ^ passes)

theorem Wavelet.length_settled (w : Wavelet R) (level : Option ℤ) (c : R) (length : ℕ) :
    (w.settled level c length).length = length := by
  rw [settled, leadingBand, List.length_append, List.length_replicate, List.length_replicate]
  exact Nat.add_sub_cancel' (Nat.shiftRight_le _ _)

theorem Wavelet.settled_one (w : Wavelet R) (level : Option ℤ) (c : R) :
    w.settled level c 1 = [c] := by
  have zero : (w.levelCount (1 : ℕ) level).toNat = 0 := by
    have within := w.levelCount_le 1 level
    rw [w.depth_one] at within
    exact Nat.le_zero.mp within
  rw [settled, zero]
  change leadingBand 1 1 _ = _
  rw [leadingBand_length, pow_zero, mul_one]
  rfl

variable [Zero α] [Add α] [Mul α] [Neg α]

namespace Carries
variable {f : R → α} (carries : Carries f)
include carries

theorem correlate (taps : List R) (c : R) {length : ℕ} (positive : 0 < length) (start : ℕ) :
    Wavelet.correlate (taps.map f) (List.replicate length (f c)).toArray start =
      f (c * taps.sum) := by
  have everywhere (place : ℕ) :
      (List.replicate length (f c)).toArray.getD (place % length) 0 = f c := by
    simp [Nat.mod_lt place positive]
  have run (taps : List R) (first : ℕ) (before : R) :
      ((taps.map f).zipIdx first).foldl (fun acc place => acc +
        (List.replicate length (f c)).toArray.getD ((start + place.2) % length) 0 * place.1)
          (f before) = f (before + c * taps.sum) := by
    induction taps generalizing first before with
    | nil => rw [List.sum_nil, mul_zero, add_zero]; rfl
    | cons tap taps ih =>
      rw [List.map_cons, List.zipIdx_cons, List.foldl_cons]
      simp only [everywhere] at ih ⊢
      rw [← carries.mul, ← carries.add, ih, List.sum_cons, mul_add, add_assoc]
  have whole := run taps 0 0
  rw [zero_add, carries.zero] at whole
  simpa [Wavelet.correlate] using whole

variable {v : Wavelet α} {w : Wavelet R} (image : v.scales = w.scales.map f)
include image

theorem coeffs_image : v.coeffs = w.coeffs.map f := by
  apply List.ext_getElem
  · simp [Wavelet.coeffs, image]
  · intro i _ _
    simp only [Wavelet.coeffs, image, List.getElem_map, List.getElem_mapIdx, List.getElem_reverse,
      List.length_map]
    split_ifs
    · rfl
    · exact (carries.neg _).symm

variable (flat : w.scales.alternatingSum = 0) (c : R)
include flat

theorem analyse (half : ℕ) : v.analyse (.replicate (2 * half) (f c)) =
    leadingBand (2 * half) half (f (c * w.scales.sum)) := by
  have each (taps : List R) :
      ((List.range half).map (2 * ·)).map
        (Wavelet.correlate (taps.map f) (List.replicate (2 * half) (f c)).toArray) =
          .replicate half (f (c * taps.sum)) := by
    rw [List.map_map, List.eq_replicate_iff]
    refine ⟨by simp, ?_⟩
    rintro _ member
    obtain ⟨i, below, rfl⟩ := List.mem_map.mp member
    have positive : 0 < 2 * half := by
      have := List.mem_range.mp below
      omega
    exact carries.correlate taps c positive (2 * i)
  have silent : c * w.coeffs.sum = 0 := by rw [w.sum_coeffs, flat, neg_zero, mul_zero]
  simp only [Wavelet.analyse, List.length_replicate, Nat.mul_div_cancel_left half two_pos,
    carries.coeffs_image image, image, each, silent, carries.zero]
  rw [leadingBand, two_mul, Nat.add_sub_cancel]

theorem forward {half : ℕ} (power : (2 * half).isPowerOfTwo) (long : v.waveLength ≤ 2 * half) :
    v.forward (.replicate (2 * half) (f c)) none =
      .ok (leadingBand (2 * half) half (f (c * w.scales.sum))) := by
  have size : (List.replicate (2 * half) (f c)).length = 2 * half := List.length_replicate
  rw [v.forward_none (size.symm ▸ power) (size.symm ▸ long), carries.analyse image flat]

theorem forward_zero {half : ℕ} (power : (2 * half).isPowerOfTwo)
    (long : v.waveLength ≤ 2 * half) :
    v.forward (.replicate (2 * half) 0) none = .ok (.replicate (2 * half) 0) := by
  have zeros := carries.forward image flat 0 power long
  rwa [zero_mul, carries.zero, leadingBand_zero (by omega)] at zeros

end Carries

structure SettledAt (f : R → α) (w : Wavelet R) (c : R) (length passes width : ℕ)
    (xs : List α) : Prop where
  divides : width ∣ length
  band : xs = leadingBand length width (f (c * w.scales.sum ^ passes))

section
variable {onBands : Wavelet.Banding α} (zeros : Wavelet.LeavesZeros onBands) {f : R → α}
  (carries : Carries f) {v : Wavelet α} {w : Wavelet R} (image : v.scales = w.scales.map f)
  (flat : w.scales.alternatingSum = 0) (c : R)
include zeros carries image flat

theorem SettledAt.pass {length passes half : ℕ} (positive : 0 < length) {xs : List α}
    (narrow : (2 * half).isPowerOfTwo) (long : v.waveLength ≤ 2 * half)
    (settled : SettledAt f w c length passes (2 * half) xs) :
    ∃ ys, onBands (v.forward · none) xs (2 * half) = .ok ys ∧
      SettledAt f w c length (passes + 1) half ys := by
  obtain ⟨divides, rfl⟩ := settled
  obtain ⟨count, whole⟩ := divides
  obtain ⟨count, rfl⟩ : ∃ fewer, count = fewer + 1 := by
    refine Nat.exists_eq_succ_of_ne_zero ?_
    rintro rfl
    omega
  have rest : length - 2 * half = 2 * half * count := by
    rw [whole, Nat.mul_succ, Nat.add_sub_cancel]
  have sent : onBands (v.forward · none) (.replicate (2 * half) (f (c * w.scales.sum ^ passes)) ++
      .replicate (2 * half * count) 0) (2 * half) =
        .ok (leadingBand (2 * half) half (f (c * w.scales.sum ^ passes * w.scales.sum)) ++
          .replicate (2 * half * count) 0) :=
    zeros count (Nat.pos_of_isPowerOfTwo narrow) List.length_replicate
      (carries.forward image flat _ narrow long) (carries.forward_zero image flat narrow long)
  refine ⟨_, by rw [leadingBand, rest]; exact sent, (Nat.dvd_mul_left half 2).trans ⟨_, whole⟩, ?_⟩
  have behind : 2 * half - half + 2 * half * count = length - half := by
    rw [← rest]
    rw [Nat.mul_succ] at whole
    omega
  rw [leadingBand, leadingBand, List.append_assoc, List.replicate_append_replicate, behind,
    pow_succ, mul_assoc]

/-- Level by level a constant signal settles, whether its details are filtered again or not. -/
theorem Transform.FiltersBands.forward_constant {t : Transform α} {stage : Stage}
    (filters : t.FiltersBands v stage onBands) {length : ℕ} (power : length.isPowerOfTwo)
    (level : Option ℤ) :
    t.forward (.replicate length (f c)) level = .ok ((w.settled level c length).map f) := by
  have positive : 0 < length := Nat.pos_of_isPowerOfTwo power
  have size : (List.replicate length (f c)).length = length := List.length_replicate
  have start : SettledAt f w c length 0 length (.replicate length (f c)) :=
    ⟨dvd_rfl, by rw [leadingBand_length, pow_zero, mul_one]⟩
  obtain ⟨ys, sent, _, band⟩ := filters.forward_holds (SettledAt f w c length) (size.symm ▸ power)
    level (by rwa [size]) fun narrow long settled =>
      settled.pass zeros carries image flat c positive narrow long
  rw [size, Wavelet.levelCount_congr (Wavelet.waveLength_image image)] at band
  rw [sent, band, Wavelet.settled, leadingBand, leadingBand, List.map_append, List.map_replicate,
    List.map_replicate, carries.zero]

end

namespace Transform
variable {f : R → α} (carries : Carries f) {v : Wavelet α} {w : Wavelet R}
  (image : v.scales = w.scales.map f) (flat : w.scales.alternatingSum = 0)
include carries image flat

theorem forward_constant {t : Transform α} (byLevels : t ∈ [pyramid v, packet v]) {length : ℕ}
    (power : length.isPowerOfTwo) (level : Option ℤ) (c : R) :
    t.forward (.replicate length (f c)) level = .ok ((w.settled level c length).map f) := by
  obtain rfl | rfl : t = pyramid v ∨ t = packet v := by simpa using byLevels
  · exact (filtersBands_pyramid v).forward_constant Wavelet.leavesZeros_onLeading carries image
      flat c power level
  · exact (filtersBands_packet v).forward_constant Wavelet.leavesZeros_onBlocks carries image
      flat c power level

/-- A constant signal of any length settles in each of its parts. -/
theorem forward_constant_decomposed {t : Transform α} (byLevels : t ∈ [pyramid v, packet v])
    {length : ℕ} (nonzero : length ≠ 0) (level : Option ℤ) (c : R) :
    (decomposed t).forward (.replicate length (f c)) level =
      .ok (((Multipliers.parts length).flatMap fun part => w.settled level c part.2).map f) := by
  have size : (List.replicate length (f c)).length = length := List.length_replicate
  have filled : List.replicate length (f c) ≠ [] := by simpa using nonzero
  have each : ∀ part ∈ Multipliers.parts length,
      onSlice (t.forward · level) (.replicate length (f c)) part =
        .ok ((w.settled level c part.2).map f) := by
    intro part member
    have within := ((Multipliers.contiguous_parts length).bounds.2 part member).2
    have piece : slice part (.replicate length (f c)) = .replicate part.2 (f c) := by
      rw [slice, List.drop_replicate, List.take_replicate]
      congr 1
      omega
    rw [onSlice, piece]
    split
    case isTrue one => rw [one, w.settled_one]; rfl
    case isFalse =>
      have power := (Multipliers.cutsByPowers_parts nonzero).power part member
      exact forward_constant carries image flat byLevels power level c
  have pieces : (Multipliers.parts length).mapM (onSlice (t.forward · level)
      (.replicate length (f c))) =
        .ok ((Multipliers.parts length).map fun part => (w.settled level c part.2).map f) :=
    mapM_of_forall₂ (List.forall₂_map_right_iff.mpr (List.forall₂_same.mpr each))
  have whole := LineTransform.step_decomposed t.line .forward level filled
  rw [size] at whole
  refine whole.trans ?_
  change (Multipliers.parts length).mapM (onSlice (t.forward · level) _) >>= _ = _
  rw [pieces, List.map_flatMap, List.flatMap_def]
  rfl

end Transform

end GestureLexicon
