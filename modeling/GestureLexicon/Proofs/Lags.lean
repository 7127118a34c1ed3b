import GestureLexicon.Wavelet
import Mathlib

/-!
Coefficients against shifted coefficients. A wavelet is orthonormal if the products of its scaling
coefficients with those an even number of places further add up to one without a shift and to zero
with any other. The alternating flip gives the wavelet coefficients the same property and makes the
two kinds orthogonal at every even lag, whatever the scaling coefficients are.
-/

namespace GestureLexicon.Wavelet
open Finset
variable {R : Type} [CommRing R]

/-- The products of the scaling coefficients with those an even number of places further. -/
def Orthonormal (w : Wavelet R) : Prop :=
  ∀ k : ℕ, ∑ j ∈ range w.waveLength, w.scales.getD j 0 * w.scales.getD (j + 2 * k) 0 =
    if k = 0 then 1 else 0

def lag (s t : List R) (shift : ℤ) : R :=
  ∑ j ∈ range s.length, ∑ i ∈ range t.length,
    if (j : ℤ) - i = shift then s.getD j 0 * t.getD i 0 else 0

theorem lag_neg (s t : List R) (shift : ℤ) : lag t s (-shift) = lag s t shift := by
  rw [lag, lag, sum_comm]
  refine sum_congr rfl fun j _ => sum_congr rfl fun i _ => ?_
  rw [mul_comm]
  exact if_congr (by omega) rfl rfl

theorem lag_natCast (s : List R) (k : ℕ) :
    lag s s k = ∑ i ∈ range s.length, s.getD i 0 * s.getD (i + k) 0 := by
  rw [lag, sum_comm]
  refine sum_congr rfl fun i _ => ?_
  have place (j : ℕ) : ((j : ℤ) - i = k) ↔ j = i + k := by omega
  simp only [place, sum_ite_eq', mem_range]
  split_ifs with within
  · exact mul_comm _ _
  · rw [List.getD_eq_default s 0 (by omega : s.length ≤ i + k), mul_zero]

/-- Where each even lag but the zeroth adds up to nothing, the pairs of places whose distance meets
a condition on even numbers count only if zero meets it. -/
theorem sum_of_lags {s t : List R} {total : R}
    (lags : ∀ k : ℤ, lag s t (2 * k) = if k = 0 then total else 0)
    (meets : ℤ → Prop) [DecidablePred meets] (even : ∀ shift, meets shift → 2 ∣ shift) :
    (∑ j ∈ range s.length, ∑ i ∈ range t.length,
      if meets ((j : ℤ) - i) then s.getD j 0 * t.getD i 0 else 0) =
      if meets 0 then total else 0 := by
  let shifts := Icc (-(t.length : ℤ)) s.length
  have spread : ∀ j ∈ range s.length, ∀ i ∈ range t.length,
      (if meets ((j : ℤ) - i) then s.getD j 0 * t.getD i 0 else 0) =
        ∑ shift ∈ shifts, if (j : ℤ) - i = shift then
          (if meets shift then s.getD j 0 * t.getD i 0 else 0) else 0 := by
    intro j below i bound
    rw [mem_range] at below bound
    rw [sum_ite_eq, if_pos (mem_Icc.mpr ⟨by omega, by omega⟩)]
  calc
    _ = ∑ shift ∈ shifts, if meets shift then lag s t shift else 0 := by
      rw [sum_congr rfl fun j below => sum_congr rfl (spread j below)]
      simp only [sum_comm (t := shifts)]
      refine sum_congr rfl fun shift _ => ?_
      by_cases met : meets shift <;> simp [met, lag]
    _ = ∑ shift ∈ shifts, if shift = 0 then (if meets 0 then total else 0) else 0 := by
      refine sum_congr rfl fun shift _ => ?_
      by_cases met : meets shift
      · obtain ⟨k, rfl⟩ := even shift met
        rw [if_pos met, lags]
        by_cases zero : k = 0
        · subst zero
          simpa using fun unmet => absurd met unmet
        · rw [if_neg zero, if_neg (by omega)]
      · by_cases zero : shift = 0
        · rw [if_neg met, if_pos zero, if_neg (zero ▸ met)]
        · rw [if_neg met, if_neg zero]
    _ = _ := by
      rw [sum_ite_eq', if_pos]
      simp [shifts]

variable (w : Wavelet R)

theorem orthonormal_of_near
    (near : ∀ k, 2 * k < w.waveLength →
      ∑ j ∈ range w.waveLength, w.scales.getD j 0 * w.scales.getD (j + 2 * k) 0 =
        if k = 0 then 1 else 0) : w.Orthonormal := by
  intro k
  by_cases shift : 2 * k < w.waveLength
  · exact near k shift
  · have several := w.two_le
    rw [waveLength] at shift
    rw [if_neg (by omega)]
    refine sum_eq_zero fun j _ => ?_
    have past : w.scales.length ≤ j + 2 * k := by omega
    rw [w.scales.getD_eq_default 0 past, mul_zero]

theorem length_coeffs : w.coeffs.length = w.waveLength := by
  simp [coeffs, waveLength]

theorem getD_coeffs {j : ℕ} (within : j < w.waveLength) :
    w.coeffs.getD j 0 = (-1) ^ j * w.scales.getD (w.waveLength - 1 - j) 0 := by
  have mirrored : w.waveLength - 1 - j < w.scales.length := by
    rw [waveLength] at *
    omega
  rw [List.getD_eq_getElem _ _ (w.length_coeffs.symm ▸ within),
    List.getD_eq_getElem _ _ mirrored]
  simp only [coeffs, List.getElem_mapIdx, List.getElem_reverse]
  rcases Nat.mod_two_eq_zero_or_one j with even | odd
  · rw [if_pos even, (Nat.even_iff.mpr even).neg_one_pow, one_mul]
    rfl
  · rw [if_neg (by omega), (Nat.odd_iff.mpr odd).neg_one_pow, neg_one_mul]
    rfl

variable {w}

theorem Orthonormal.lag_scales (orthonormal : w.Orthonormal) (k : ℤ) :
    lag w.scales w.scales (2 * k) = if k = 0 then 1 else 0 := by
  have forward (n : ℕ) : lag w.scales w.scales (2 * n) = if (n : ℤ) = 0 then 1 else 0 := by
    have shifted := lag_natCast w.scales (2 * n)
    rw [Nat.cast_mul, Nat.cast_ofNat] at shifted
    rw [shifted]
    exact (orthonormal n).trans (if_congr (by omega) rfl rfl)
  obtain ⟨n, rfl | rfl⟩ := k.eq_nat_or_neg
  · exact forward n
  · rw [mul_neg, lag_neg, forward]
    exact if_congr (by omega) rfl rfl

variable (w)

theorem lag_coeffs (k : ℤ) : lag w.coeffs w.coeffs (2 * k) = lag w.scales w.scales (2 * k) := by
  rw [← lag_neg w.scales]
  simp only [lag, w.length_coeffs, show w.scales.length = w.waveLength from rfl]
  rw [← sum_range_reflect]
  refine sum_congr rfl fun j below => ?_
  rw [← sum_range_reflect]
  refine sum_congr rfl fun i bound => ?_
  rw [mem_range] at below bound
  have condition : (((w.waveLength - 1 - j : ℕ) : ℤ) - (w.waveLength - 1 - i : ℕ) = 2 * k) ↔
      (j : ℤ) - i = -(2 * k) := by omega
  simp only [condition]
  split_ifs with apart
  · rw [w.getD_coeffs (by omega), w.getD_coeffs (by omega), Nat.sub_sub_self (by omega),
      Nat.sub_sub_self (by omega), mul_mul_mul_comm, ← pow_add, Even.neg_one_pow, one_mul]
    rw [Nat.even_iff]
    omega
  · rfl

/-- Scaling and wavelet coefficients are orthogonal at even lags. Two pairs of places that mirror
each other have opposite products, and no pair mirrors itself. -/
theorem lag_scales_coeffs (k : ℤ) : lag w.scales w.coeffs (2 * k) = 0 := by
  have even : w.waveLength % 2 = 0 := w.even
  rw [lag, ← sum_product', w.length_coeffs, show w.scales.length = w.waveLength from rfl]
  refine sum_involution
    (fun place _ => (w.waveLength - 1 - place.2, w.waveLength - 1 - place.1)) ?_ ?_ ?_ ?_
  · rintro ⟨j, i⟩ member
    simp only [mem_product, mem_range] at member
    have condition : (((w.waveLength - 1 - i : ℕ) : ℤ) - (w.waveLength - 1 - j : ℕ) = 2 * k) ↔
        (j : ℤ) - i = 2 * k := by omega
    simp only [condition]
    split_ifs with apart
    · have opposite : (-1 : R) ^ (w.waveLength - 1 - j) = -(-1) ^ i := by
        rw [← neg_one_mul ((-1 : R) ^ i), ← pow_succ', neg_one_pow_congr]
        rw [Nat.even_iff, Nat.even_iff]
        omega
      rw [w.getD_coeffs member.2, w.getD_coeffs (by omega), Nat.sub_sub_self (by omega), opposite]
      ring
    · exact add_zero 0
  · rintro ⟨j, i⟩ member nonzero mirrored
    simp only [mem_product, mem_range] at member
    have apart : (j : ℤ) - i = 2 * k := by
      by_contra other
      exact nonzero (if_neg other)
    simp only [Prod.mk.injEq] at mirrored
    omega
  · rintro ⟨j, i⟩ member
    simp only [mem_product, mem_range] at member ⊢
    omega
  · rintro ⟨j, i⟩ member
    simp only [mem_product, mem_range] at member
    simp only [Prod.mk.injEq]
    omega

end GestureLexicon.Wavelet
