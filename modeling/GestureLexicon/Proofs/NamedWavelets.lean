import GestureLexicon.Proofs.Lags

/-!
The wavelets that have a name, over the reals. Their coefficients are closed forms in the roots of
2, 3 and 15, and with exact roots they are orthonormal.
-/

namespace GestureLexicon
open Finset

noncomputable instance realScalar : Scalar ℝ where
  ofNat n := n
  sqrt := Real.sqrt
  hypot x y := Real.sqrt (x ^ 2 + y ^ 2)
  less x y := decide (x < y)
  isZero x := decide (x = 0)

namespace Wavelet

theorem haar_orthonormal : (haar : Wavelet ℝ).Orthonormal := by
  refine orthonormal_of_near _ fun k shift => ?_
  have two : Real.sqrt 2 ^ 2 = 2 := Real.sq_sqrt (by norm_num)
  simp only [haar, waveLength, List.length_cons, List.length_nil] at shift ⊢
  obtain rfl : k = 0 := by omega
  simp [sum_range_succ, Scalar.ofNat, Scalar.sqrt]
  field_simp
  linarith

theorem daubechies4_orthonormal : (daubechies4 : Wavelet ℝ).Orthonormal := by
  refine orthonormal_of_near _ fun k shift => ?_
  have two : Real.sqrt 2 ^ 2 = 2 := Real.sq_sqrt (by norm_num)
  have three : Real.sqrt 3 ^ 2 = 3 := Real.sq_sqrt (by norm_num)
  simp only [daubechies4, waveLength, List.length_cons, List.length_nil] at shift ⊢
  obtain rfl | rfl : k = 0 ∨ k = 1 := by omega
  · simp [sum_range_succ, Scalar.ofNat, Scalar.sqrt]
    field_simp
    rw [two]
    linarith
  · simp [sum_range_succ, Scalar.ofNat, Scalar.sqrt]
    field_simp
    rw [two]
    linarith

theorem coiflet6_orthonormal : (coiflet6 : Wavelet ℝ).Orthonormal := by
  refine orthonormal_of_near _ fun k shift => ?_
  have two : Real.sqrt 2 ^ 2 = 2 := Real.sq_sqrt (by norm_num)
  have fifteen : Real.sqrt 15 ^ 2 = 15 := Real.sq_sqrt (by norm_num)
  simp only [coiflet6, waveLength, List.length_cons, List.length_nil] at shift ⊢
  obtain rfl | rfl | rfl : k = 0 ∨ k = 1 ∨ k = 2 := by omega
  · simp [sum_range_succ, Scalar.ofNat, Scalar.sqrt]
    field_simp
    rw [two]
    linarith
  · simp [sum_range_succ, Scalar.ofNat, Scalar.sqrt]
    field_simp
    rw [two]
    linarith
  · simp [sum_range_succ, Scalar.ofNat, Scalar.sqrt]
    field_simp
    rw [two]
    linarith

end Wavelet
end GestureLexicon
