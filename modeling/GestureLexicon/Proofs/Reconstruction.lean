import GestureLexicon.Proofs.FilterBank
import GestureLexicon.Proofs.NamedWavelets

/-!
When a filter step can be undone. The step back after the step there gives every signal again if and
only if the scaling coefficients are orthonormal under even shifts; unit energy alone is the
condition without a shift. Main statement: `reverse_forward_iff`, with the named wavelets, whose
coefficients over the reals meet the condition.
-/

namespace GestureLexicon
open Finset Matrix

namespace Wavelet
variable {R : Type} [CommRing R] (w : Wavelet R)

theorem Orthonormal.scales_mul {w : Wavelet R} (orthonormal : w.Orthonormal) (half : ℕ) :
    rows w.scales half (2 * half) * (rows w.scales half (2 * half))ᵀ = 1 := by
  simpa only [one_smul] using rows_mul_transpose orthonormal.lag_scales half

theorem Orthonormal.coeffs_mul {w : Wavelet R} (orthonormal : w.Orthonormal) (half : ℕ) :
    rows w.coeffs half (2 * half) * (rows w.coeffs half (2 * half))ᵀ = 1 := by
  simpa only [one_smul] using rows_mul_transpose
    (fun k => (w.lag_coeffs k).trans (orthonormal.lag_scales k)) half

theorem scales_mul_coeffs (half : ℕ) :
    rows w.scales half (2 * half) * (rows w.coeffs half (2 * half))ᵀ = 0 := by
  simpa only [zero_smul] using rows_mul_transpose
    (fun k => (w.lag_scales_coeffs k).trans (ite_self 0).symm) half

theorem coeffs_mul_scales (half : ℕ) :
    rows w.coeffs half (2 * half) * (rows w.scales half (2 * half))ᵀ = 0 := by
  have crossed := congrArg transpose (w.scales_mul_coeffs half)
  rwa [transpose_mul, transpose_transpose, transpose_zero] at crossed

def roundTrip (half : ℕ) : Matrix (Fin (2 * half)) (Fin (2 * half)) R :=
  (rows w.scales half (2 * half))ᵀ * rows w.scales half (2 * half) +
    (rows w.coeffs half (2 * half))ᵀ * rows w.coeffs half (2 * half)

/-- The rows of both halves are as many as the places of the signal, so their columns are
orthonormal if and only if the rows are. -/
theorem roundTrip_eq_one_iff (half : ℕ) :
    w.roundTrip half = 1 ↔
      fromRows (rows w.scales half (2 * half)) (rows w.coeffs half (2 * half)) *
        fromCols (rows w.scales half (2 * half))ᵀ (rows w.coeffs half (2 * half))ᵀ = 1 := by
  rw [roundTrip, ← fromCols_mul_fromRows]
  exact fromCols_mul_fromRows_eq_one_comm ((finCongr (two_mul half)).trans finSumFinEquiv.symm)
    _ _ _ _

theorem Orthonormal.roundTrip_eq_one {w : Wavelet R} (orthonormal : w.Orthonormal) (half : ℕ) :
    w.roundTrip half = 1 := by
  rw [roundTrip_eq_one_iff, fromRows_mul_fromCols, orthonormal.scales_mul, orthonormal.coeffs_mul,
    scales_mul_coeffs, coeffs_mul_scales, fromBlocks_one]

theorem scales_mul_of_roundTrip {half : ℕ} (same : w.roundTrip half = 1) :
    rows w.scales half (2 * half) * (rows w.scales half (2 * half))ᵀ = 1 := by
  have blocked := (w.roundTrip_eq_one_iff half).mp same
  rw [fromRows_mul_fromCols, ← fromBlocks_one] at blocked
  exact (fromBlocks_inj.mp blocked).1

theorem entries_append {half : ℕ} {low : List R} (size : low.length = half) (ys : List R) :
    entries half (low ++ ys) = entries half low := by
  funext i
  simp [entries, List.getElem?_append_left, size]

theorem synthesise_analyse {half : ℕ} {xs : List R} (size : xs.length = 2 * half) :
    w.synthesise (w.analyse xs) = List.ofFn (w.roundTrip half *ᵥ entries (2 * half) xs) := by
  have even : xs.length % 2 = 0 := by omega
  rw [w.synthesise_eq ((w.length_analyse even).trans size), w.analyse_eq size,
    entries_append List.length_ofFn, List.drop_left' List.length_ofFn, entries_ofFn, entries_ofFn,
    mulVec_mulVec, mulVec_mulVec, roundTrip, add_mulVec]

theorem Orthonormal.synthesise_analyse {w : Wavelet R} (orthonormal : w.Orthonormal) {xs : List R}
    (even : xs.length % 2 = 0) : w.synthesise (w.analyse xs) = xs := by
  obtain ⟨half, size⟩ := Nat.dvd_of_mod_eq_zero even
  rw [w.synthesise_analyse size, orthonormal.roundTrip_eq_one, one_mulVec, ofFn_entries size]

theorem Orthonormal.analyse_synthesise {w : Wavelet R} (orthonormal : w.Orthonormal) {xs : List R}
    (even : xs.length % 2 = 0) : w.analyse (w.synthesise xs) = xs := by
  obtain ⟨half, size⟩ := Nat.dvd_of_mod_eq_zero even
  have low : (xs.take half).length = half := by
    rw [List.length_take]
    omega
  have high : (xs.drop half).length = half := by
    rw [List.length_drop]
    omega
  have leading : entries half xs = entries half (xs.take half) := by
    rw [← entries_append low (xs.drop half), List.take_append_drop]
  rw [w.analyse_eq ((w.length_synthesise xs).trans size), w.synthesise_eq size, entries_ofFn,
    mulVec_add, mulVec_add, mulVec_mulVec, mulVec_mulVec, mulVec_mulVec, mulVec_mulVec,
    orthonormal.scales_mul, orthonormal.coeffs_mul, scales_mul_coeffs, coeffs_mul_scales,
    one_mulVec, one_mulVec, zero_mulVec, zero_mulVec, add_zero, zero_add, leading,
    ofFn_entries low, ofFn_entries high, List.take_append_drop]

/-- On a ring with room for all coefficients twice, the first row meets a later one as the scaling
coefficients meet themselves at a shift. -/
theorem scales_mul_apply {half : ℕ} (roomy : w.waveLength ≤ half) (first k : Fin half)
    (start : (first : ℕ) = 0) (near : 2 * (k : ℕ) < w.waveLength) :
    (rows w.scales half (2 * half) * (rows w.scales half (2 * half))ᵀ) first k =
      lag w.scales w.scales ((2 * k : ℕ) : ℤ) := by
  have taps : w.scales.length = w.waveLength := rfl
  have positive : 0 < 2 * half := by omega
  rw [rows_mul_transpose_apply _ _ positive, lag]
  refine sum_congr rfl fun j below => sum_congr rfl fun l bound => if_congr ?_ rfl rfl
  rw [mem_range] at below bound
  have here : 2 * (first : ℕ) + j < 2 * half := by omega
  have there : 2 * (k : ℕ) + l < 2 * half := by omega
  rw [Nat.mod_eq_of_lt here, Nat.mod_eq_of_lt there]
  omega

theorem orthonormal_of_roundTrip {half : ℕ} (roomy : w.waveLength ≤ half)
    (same : w.roundTrip half = 1) : w.Orthonormal := by
  have positive : 0 < half := w.two_le_waveLength.trans_lt' two_pos |>.trans_le roomy
  refine w.orthonormal_of_near fun k near => ?_
  have met := w.scales_mul_apply roomy ⟨0, positive⟩ ⟨k, by omega⟩ rfl near
  rw [w.scales_mul_of_roundTrip same, one_apply, lag_natCast] at met
  exact met.symm.trans (if_congr (by simp [eq_comm]) rfl rfl)

theorem roundTrip_eq_one_of_undone {half : ℕ}
    (undone : ∀ xs : List R, xs.length = 2 * half → w.synthesise (w.analyse xs) = xs) :
    w.roundTrip half = 1 := by
  apply mulVec_injective
  funext v
  have back := undone (List.ofFn v) List.length_ofFn
  rw [w.synthesise_analyse List.length_ofFn, entries_ofFn] at back
  rw [one_mulVec]
  exact List.ofFn_injective back

theorem reverse_forward_eq {xs : List R} (power : xs.length.isPowerOfTwo)
    (holds : w.waveLength ≤ xs.length) :
    (w.forward xs none >>= (w.reverse · none)) = .ok (w.synthesise (w.analyse xs)) := by
  have kept := w.length_analyse (w.even_of_holds power holds)
  have steps : ¬w.Passes xs.length none := by
    rintro (level | short)
    · cases level
    · omega
  have there : w.forward xs none = .ok (w.analyse xs) := by
    rw [forward, w.guarded_of_isPowerOfTwo _ power, if_neg steps]
  have back : w.reverse (w.analyse xs) none = .ok (w.synthesise (w.analyse xs)) := by
    rw [reverse, w.guarded_of_isPowerOfTwo _ (kept.symm ▸ power), kept, if_neg steps]
  rw [there]
  exact back

/-- If every signal comes back, so do those with room for every shift. -/
theorem orthonormal_of_reverse_forward
    (undone : ∀ xs : List R, xs.length.isPowerOfTwo → w.waveLength ≤ xs.length →
      (w.forward xs none >>= (w.reverse · none)) = .ok xs) : w.Orthonormal := by
  have roomy : w.waveLength ≤ 2 ^ w.waveLength := Nat.lt_two_pow_self.le
  refine w.orthonormal_of_roundTrip roomy (w.roundTrip_eq_one_of_undone fun xs size => ?_)
  have power : xs.length.isPowerOfTwo := ⟨w.waveLength + 1, by rw [size, pow_succ']⟩
  have holds : w.waveLength ≤ xs.length := by omega
  have back := undone xs power holds
  rw [w.reverse_forward_eq power holds] at back
  exact Except.ok.inj back

end Wavelet

/-- Signals come back from a filter step if and only if the scaling coefficients are orthonormal
under even shifts, which they are for the wavelets that have a name. -/
theorem reverse_forward_iff :
    (∀ {R : Type} [CommRing R] (w : Wavelet R),
      (∀ xs : List R, xs.length.isPowerOfTwo → w.waveLength ≤ xs.length →
        (w.forward xs none >>= (w.reverse · none)) = .ok xs) ↔ w.Orthonormal) ∧
      ∀ name, (Wavelet.ofNamed name : Wavelet ℝ).Orthonormal := by
  refine ⟨fun w => ⟨w.orthonormal_of_reverse_forward, fun orthonormal xs power holds => ?_⟩, ?_⟩
  · rw [w.reverse_forward_eq power holds,
      orthonormal.synthesise_analyse (w.even_of_holds power holds)]
  · rintro (_ | _ | _)
    · exact Wavelet.haar_orthonormal
    · exact Wavelet.daubechies4_orthonormal
    · exact Wavelet.coiflet6_orthonormal

end GestureLexicon
