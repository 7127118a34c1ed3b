import GestureLexicon.Proofs.Bands
import GestureLexicon.Proofs.FilterBank
import GestureLexicon.Proofs.HaarPyramid

/-!
The sum of the leading band. Every entry of a signal meets either the even or the odd coefficients
of a wavelet, each of them once, so where both have the same sum a filter step multiplies the sum of
a signal by it. All passes together multiply it by a power, which for the Haar wavelet leaves the
scaled mean. Main statement: `Transform.leading_sums`.
-/

namespace GestureLexicon
variable {α : Type}

namespace Wavelet

section
variable {w : Wavelet α} {pass : List α → ℕ → Except TransformError (List α)}
  (Holds : ℕ → ℕ → List α → Prop)

/-- What one pass carries over to half the width, as many passes as there are carry on. -/
theorem foldlM_narrowing_holds {passes done m : ℕ} (within : passes ≤ w.depth (2 ^ m))
    (carries : ∀ {done half xs}, (2 * half).isPowerOfTwo → w.waveLength ≤ 2 * half →
      Holds done (2 * half) xs → ∃ ys, pass xs (2 * half) = .ok ys ∧ Holds (done + 1) half ys)
    {xs : List α} (holds : Holds done (2 ^ m) xs) :
    ∃ ys, (Levels.narrowing passes (2 ^ m)).foldlM pass xs = .ok ys ∧
      Holds (done + passes) (2 ^ m >>> passes) ys := by
  -- The passes that are left go down with the width while those that are done go up.
  induction passes generalizing done m xs with
  | zero => exact ⟨xs, rfl, holds⟩
  | succ passes ih =>
    obtain ⟨m, rfl, long, within⟩ := w.exists_half_of_lt_depth within
    have narrower : 2 ^ (m + 1) / 2 = 2 ^ m := by rw [pow_succ, Nat.mul_div_cancel _ two_pos]
    rw [pow_succ'] at long holds
    obtain ⟨ys, sent, next⟩ := carries ⟨m + 1, (pow_succ' 2 m).symm⟩ long holds
    obtain ⟨zs, run, last⟩ := ih within next
    rw [Nat.add_right_comm, Nat.add_assoc] at last
    refine ⟨zs, ?_, by rwa [Nat.shiftRight_succ_inside, narrower]⟩
    rw [Levels.narrowing, List.foldlM_cons, pow_succ', sent, ← pow_succ', narrower]
    exact run

end

section
open Finset Matrix
variable {R : Type} [CommRing R]

theorem sum_moved {half : ℕ} (f : ℕ → R) (distance : ℕ) :
    ∑ i : Fin half, f ((i + distance) % half) = ∑ i : Fin half, f i := by
  cases half with
  | zero => rfl
  | succ half =>
    rw [← Equiv.sum_comp (Equiv.addRight (Fin.ofNat (half + 1) distance)) fun i => f i]
    refine sum_congr rfl fun i _ => ?_
    simp [Fin.val_add]

theorem ring_place {half : ℕ} (positive : 0 < half) (i j : ℕ) :
    (2 * i + j) % (2 * half) = 2 * ((i + j / 2) % half) + j % 2 := by
  have below : (i + j / 2) % half < half := Nat.mod_lt _ positive
  have split : 2 * i + j =
      2 * half * ((i + j / 2) / half) + (2 * ((i + j / 2) % half) + j % 2) := by
    have whole := Nat.div_add_mod (i + j / 2) half
    rw [Nat.mul_assoc, ← Nat.add_assoc, ← Nat.mul_add, whole]
    omega
  rw [split, Nat.mul_add_mod, Nat.mod_eq_of_lt (by omega)]

theorem sum_rows (taps : List R) {half : ℕ} (p : Fin (2 * half)) :
    ∑ i, rows taps half (2 * half) i p =
      ∑ j ∈ range taps.length with j % 2 = (p : ℕ) % 2, taps.getD j 0 := by
  have inside : (p : ℕ) / 2 < half := by omega
  simp only [rows, of_apply, ring_place (by omega : 0 < half)]
  rw [sum_comm, sum_filter]
  refine sum_congr rfl fun j _ => ?_
  rw [sum_moved (fun i => if 2 * i + j % 2 = p then taps.getD j 0 else 0)]
  by_cases alike : j % 2 = (p : ℕ) % 2
  · rw [if_pos alike, sum_eq_single ⟨(p : ℕ) / 2, inside⟩]
    · exact if_pos (by simp only; omega)
    · intro i _ other
      exact if_neg fun same => other (Fin.ext (by simp only; omega))
    · exact fun absent => absurd (mem_univ _) absent
  · rw [if_neg alike]
    exact sum_eq_zero fun i _ => if_neg (by omega)

structure Balanced (w : Wavelet R) (q : R) : Prop where
  even : ∑ j ∈ range w.waveLength with j % 2 = 0, w.scales.getD j 0 = q
  odd : ∑ j ∈ range w.waveLength with j % 2 = 1, w.scales.getD j 0 = q

variable {w : Wavelet R} {q : R}

theorem Balanced.sum_analyse (balanced : w.Balanced q) {half : ℕ} {xs : List R}
    (size : xs.length = 2 * half) : ((w.analyse xs).take half).sum = q * xs.sum := by
  have column (p : Fin (2 * half)) : ∑ i, rows w.scales half (2 * half) i p = q := by
    rw [sum_rows]
    rcases Nat.mod_two_eq_zero_or_one p with zero | one
    · rw [zero]
      exact balanced.even
    · rw [one]
      exact balanced.odd
  have low : (w.analyse xs).take half =
      List.ofFn (rows w.scales half (2 * half) *ᵥ entries (2 * half) xs) := by
    rw [w.analyse_eq size, List.take_left' (List.length_ofFn)]
  calc ((w.analyse xs).take half).sum
      = ∑ i, ∑ p, rows w.scales half (2 * half) i p * entries (2 * half) xs p := by
        rw [low, List.sum_ofFn]
        rfl
    _ = ∑ p, q * entries (2 * half) xs p := by
        rw [sum_comm]
        exact sum_congr rfl fun p _ => by rw [← sum_mul, column]
    _ = q * xs.sum := by
        rw [← mul_sum, ← List.sum_ofFn, ofFn_entries size]

end

theorem balanced_haar : (haar : Wavelet ℝ).Balanced (1 / Real.sqrt 2) := by
  constructor <;>
    simp [haar, waveLength, Finset.sum_filter, Finset.sum_range_succ, Scalar.ofNat, Scalar.sqrt]

end Wavelet

/-- A way to apply a step to bands that does to the leading one what it does to a line by itself. -/
def Wavelet.SendsLeading (onBands : Banding α) : Prop :=
  ∀ {step : List α → Except TransformError (List α)} {width : ℕ} {xs : List α}, 0 < xs.length →
    width ∣ xs.length → Keeps width step →
      ∃ ys, onBands step xs width = .ok ys ∧ ys.length = xs.length ∧
        step (xs.take width) = .ok (ys.take width)

theorem Wavelet.sendsLeading_onLeading : SendsLeading (@onLeading α) := by
  intro step width xs filled divides keeps
  obtain ⟨ys, sent, kept, _⟩ := bandwise_onLeading.keeps filled divides keeps xs rfl
  exact ⟨ys, sent, kept, (LeadingSent.of_ok filled divides keeps sent).band⟩

theorem Wavelet.sendsLeading_onBlocks : SendsLeading (@onBlocks α) := by
  intro step width xs filled divides keeps
  obtain ⟨ys, sent, kept, _⟩ := bandwise_onBlocks.keeps filled divides keeps xs rfl
  have fits : (0 + 1) * width ≤ xs.length := by
    rw [Nat.zero_add, Nat.one_mul]
    exact Nat.le_of_dvd filled divides
  have first := (BlocksSent.of_ok filled divides keeps sent).block 0 fits
  rw [Nat.zero_mul, List.drop_zero, List.drop_zero] at first
  exact ⟨ys, sent, kept, first⟩

namespace Transform

/-- What each pass carries over to half the width, a transform that filters bands carries on. -/
theorem FiltersBands.forward_holds [Zero α] [Add α] [Mul α] [Neg α] {t : Transform α}
    {w : Wavelet α} {stage : Stage} {onBands : Wavelet.Banding α}
    (filters : t.FiltersBands w stage onBands) (Holds : ℕ → ℕ → List α → Prop) {xs : List α}
    (power : xs.length.isPowerOfTwo) (level : Option ℤ) (start : Holds 0 xs.length xs)
    (carries : ∀ {done half xs}, (2 * half).isPowerOfTwo → w.waveLength ≤ 2 * half →
      Holds done (2 * half) xs →
        ∃ ys, onBands (w.forward · none) xs (2 * half) = .ok ys ∧ Holds (done + 1) half ys) :
    let passes := (w.levelCount xs.length level).toNat
    ∃ ys, t.forward xs level = .ok ys ∧ Holds passes (xs.length >>> passes) ys := by
  intro passes
  have within : passes ≤ w.depth xs.length := w.levelCount_le xs.length level
  have widths : w.widths xs.length level = Levels.narrowing passes xs.length := rfl
  rw [filters.forward, w.descend_eq _ _ power, widths]
  clear_value passes
  obtain ⟨m, size⟩ := power
  rw [size] at within start ⊢
  have run := Wavelet.foldlM_narrowing_holds Holds within carries start
  rwa [Nat.zero_add] at run

variable {R : Type} [CommRing R] {w : Wavelet R} {q : R}

/-- After so many passes over a line of a length with a sum, the leading band of a width has the
sum times as many factors. -/
structure LeadingSum (q : R) (length : ℕ) (total : R) (passes width : ℕ) (xs : List R) : Prop where
  size : xs.length = length
  divides : width ∣ length
  sum : (xs.take width).sum = q ^ passes * total

theorem FiltersBands.leading_sum {t : Transform R} {stage : Stage} {onBands : Wavelet.Banding R}
    (filters : t.FiltersBands w stage onBands) (leading : Wavelet.SendsLeading onBands)
    (balanced : w.Balanced q) {xs : List R} (power : xs.length.isPowerOfTwo) (level : Option ℤ) :
    let passes := (w.levelCount xs.length level).toNat
    ∃ ys, t.forward xs level = .ok ys ∧
      LeadingSum q xs.length xs.sum passes (xs.length >>> passes) ys := by
  have filled : 0 < xs.length := Nat.pos_of_isPowerOfTwo power
  refine filters.forward_holds (LeadingSum q xs.length xs.sum) power level ?_ ?_
  · exact ⟨rfl, dvd_rfl, by rw [List.take_length, pow_zero, one_mul]⟩
  · intro done half zs narrow long holds
    have divides : 2 * half ∣ zs.length := holds.size ▸ holds.divides
    have keeps : Keeps (2 * half) (w.forward · none) := w.keeps_forward narrow
    obtain ⟨ys, sent, kept, band⟩ := leading (holds.size.symm ▸ filled) divides keeps
    have size : (zs.take (2 * half)).length = 2 * half :=
      length_take_of_dvd (holds.size.symm ▸ filled) divides
    rw [w.forward_none (size.symm ▸ narrow) (size.symm ▸ long)] at band
    have low : ys.take half = (w.analyse (zs.take (2 * half))).take half := by
      rw [Except.ok.inj band, List.take_take, min_eq_left (by omega)]
    refine ⟨ys, sent, kept.trans holds.size, (Nat.dvd_mul_left half 2).trans holds.divides, ?_⟩
    rw [low, balanced.sum_analyse size, holds.sum, pow_succ', mul_assoc]

theorem sqrt_two_pow (m : ℕ) : Real.sqrt (2 ^ m) = Real.sqrt 2 ^ m := by
  rw [Real.sqrt_eq_iff_mul_self_eq (by positivity) (by positivity), ← mul_pow,
    Real.mul_self_sqrt zero_le_two]

theorem FiltersBands.head_haar {t : Transform ℝ} {stage : Stage} {onBands : Wavelet.Banding ℝ}
    (filters : t.FiltersBands .haar stage onBands) (leading : Wavelet.SendsLeading onBands)
    {xs : List ℝ} (power : xs.length.isPowerOfTwo) :
    ∃ ys, t.forward xs none = .ok ys ∧ ys.head? = some (xs.sum / Real.sqrt xs.length) := by
  obtain ⟨ys, sent, band⟩ := filters.leading_sum leading Wavelet.balanced_haar power none
  obtain ⟨m, size⟩ := power
  have passes : ((Wavelet.haar : Wavelet ℝ).levelCount xs.length none).toNat = m := by
    rw [size]
    exact Wavelet.depth_haar m
  have one : 2 ^ m >>> m = 1 := by
    rw [Nat.shiftRight_eq_div_pow, Nat.div_self (by positivity)]
  have sum := band.sum
  rw [passes, size, one] at sum
  refine ⟨ys, sent, ?_⟩
  have filled : 0 < ys.length := by
    rw [band.size, size]
    positivity
  obtain ⟨y, rest, rfl⟩ := List.exists_cons_of_length_pos filled
  have scaled : y = xs.sum / Real.sqrt xs.length := by
    rw [size, Nat.cast_pow, Nat.cast_ofNat, sqrt_two_pow, div_eq_mul_one_div, ← one_div_pow,
      mul_comm]
    simpa using sum
  exact congrArg some scaled

/-- The leading band of the pyramid and of the packet transform keeps the sum of a signal but for a
factor for each pass. All passes of the Haar wavelet leave the scaled mean in front. -/
theorem leading_sums :
    (∀ (R : Type) [CommRing R] (w : Wavelet R) (q : R), w.Balanced q → ∀ (xs : List R),
      xs.length.isPowerOfTwo → ∀ (level : Option ℤ), ∀ t ∈ [pyramid w, packet w],
        let passes := (w.levelCount xs.length level).toNat
        ∃ ys, t.forward xs level = .ok ys ∧ ys.length = xs.length ∧
          (ys.take (xs.length >>> passes)).sum = q ^ passes * xs.sum) ∧
    ∀ xs : List ℝ, xs.length.isPowerOfTwo → ∀ t ∈ [pyramid .haar, packet .haar],
      ∃ ys, t.forward xs none = .ok ys ∧ ys.head? = some (xs.sum / Real.sqrt xs.length) := by
  simp only [List.forall_mem_cons, List.not_mem_nil, false_implies, implies_true, and_true]
  constructor
  · intro R _ w q balanced xs power level
    obtain ⟨ys, sent, band⟩ := (filtersBands_pyramid w).leading_sum Wavelet.sendsLeading_onLeading
      balanced power level
    obtain ⟨zs, also, bandAlso⟩ := (filtersBands_packet w).leading_sum
      Wavelet.sendsLeading_onBlocks balanced power level
    exact ⟨⟨ys, sent, band.size, band.sum⟩, zs, also, bandAlso.size, bandAlso.sum⟩
  · intro xs power
    exact ⟨(filtersBands_pyramid .haar).head_haar Wavelet.sendsLeading_onLeading power,
      (filtersBands_packet .haar).head_haar Wavelet.sendsLeading_onBlocks power⟩

/-- Two passes with sums of three on either side, and all three of the Haar wavelet. -/
theorem leading_sums_eight :
    let w : Wavelet ℤ := ⟨none, [1, 1, 2, 2], by decide, rfl⟩
    let xs : List ℤ := [3, 1, 4, 1, 5, 9, 2, 6]
    let signal : List ℝ := [3, 1, 4, 1, 5, 9, 2, 6]
    w.Balanced 3 ∧ xs.length.isPowerOfTwo ∧
      (∃ ys, (packet w).forward xs (some 2) = .ok ys ∧ (ys.take 2).sum = 9 * 31) ∧
      ∃ ys, (pyramid .haar).forward signal none = .ok ys ∧
        ys.head? = some (signal.sum / Real.sqrt 8) := by
  intro w xs signal
  have balanced : w.Balanced 3 := ⟨by decide, by decide⟩
  have power : xs.length.isPowerOfTwo := ⟨3, rfl⟩
  have two : (w.levelCount xs.length (some 2)).toNat = 2 := by decide +kernel
  obtain ⟨ys, sent, _, sum⟩ := leading_sums.1 ℤ w 3 balanced xs power (some 2) (packet w) (by simp)
  obtain ⟨zs, also, head⟩ := leading_sums.2 signal ⟨3, rfl⟩ (pyramid .haar) (by simp)
  rw [two, show xs.length >>> 2 = 2 by decide, show xs.sum = 31 by decide] at sum
  refine ⟨balanced, power, ⟨ys, sent, sum⟩, zs, also, ?_⟩
  rwa [show ((signal.length : ℕ) : ℝ) = 8 by norm_num [signal]] at head

end Transform

end GestureLexicon
