import GestureLexicon.Proofs.Lags
import GestureLexicon.Proofs.LineTransform

/-!
One filter step as a pair of matrices. Each row holds the coefficients at the places of the ring that
they are correlated with, so a step there multiplies with the matrices and a step back with their
transposes. The rows of an orthonormal wavelet are orthonormal at every length, also where the
coefficients reach around the ring onto themselves.
-/

namespace GestureLexicon.Wavelet
open Finset Matrix
variable {R : Type} [CommRing R]

/-- Coefficients on a ring, laid from every second place on. -/
def rows (taps : List R) (half length : ℕ) : Matrix (Fin half) (Fin length) R :=
  Matrix.of fun i p => ∑ j ∈ range taps.length,
    if (2 * (i : ℕ) + j) % length = p then taps.getD j 0 else 0

theorem rows_mul_transpose_apply (s t : List R) {half length : ℕ} (positive : 0 < length)
    (i k : Fin half) :
    (rows s half length * (rows t half length)ᵀ) i k =
      ∑ j ∈ range s.length, ∑ l ∈ range t.length,
        if (2 * (i : ℕ) + j) % length = (2 * (k : ℕ) + l) % length
        then s.getD j 0 * t.getD l 0 else 0 := by
  simp only [mul_apply, transpose_apply, rows, of_apply, sum_mul_sum]
  rw [sum_comm]
  refine sum_congr rfl fun j _ => ?_
  rw [sum_comm]
  refine sum_congr rfl fun l _ => ?_
  have place : (2 * (i : ℕ) + j) % length < length := Nat.mod_lt _ positive
  rw [sum_eq_single (⟨_, place⟩ : Fin length)]
  · rw [if_pos rfl, mul_ite, mul_zero]
    exact if_congr eq_comm rfl rfl
  · intro p _ other
    rw [if_neg fun same => other (Fin.ext same.symm), zero_mul]
  · exact fun absent => absurd (mem_univ _) absent

theorem rows_mul_transpose {s t : List R} {total : R}
    (lags : ∀ k : ℤ, lag s t (2 * k) = if k = 0 then total else 0) (half : ℕ) :
    rows s half (2 * half) * (rows t half (2 * half))ᵀ = total • (1 : Matrix _ _ R) := by
  ext i k
  have condition (j l : ℕ) : ((2 * (i : ℕ) + j) % (2 * half) = (2 * (k : ℕ) + l) % (2 * half)) ↔
      ((2 * half : ℕ) : ℤ) ∣ ((j : ℤ) - l) + (2 * i - 2 * k) := by
    rw [eq_comm]
    refine Nat.modEq_iff_dvd.trans (iff_of_eq ?_)
    congr 1
    push_cast
    ring
  have diagonal : ((2 * half : ℕ) : ℤ) ∣ 0 + (2 * (i : ℤ) - 2 * k) ↔ i = k := by
    constructor
    · intro divides
      have := Int.eq_zero_of_abs_lt_dvd divides (by rw [abs_lt]; omega)
      omega
    · rintro rfl
      simp
  rw [rows_mul_transpose_apply s t (by omega)]
  simp only [condition]
  rw [sum_of_lags lags (fun shift => ((2 * half : ℕ) : ℤ) ∣ shift + (2 * i - 2 * k))]
  · rw [Matrix.smul_apply, one_apply, smul_ite, smul_eq_mul, mul_one, smul_zero]
    exact if_congr diagonal rfl rfl
  · intro shift divides
    have := (Int.natCast_dvd_natCast.mpr (Nat.dvd_mul_right 2 half)).trans divides
    omega

def entries (length : ℕ) (xs : List R) : Fin length → R :=
  fun p => xs.getD p 0

theorem entries_ofFn {length : ℕ} (v : Fin length → R) : entries length (List.ofFn v) = v := by
  funext p
  simp [entries]

theorem ofFn_entries {length : ℕ} {xs : List R} (size : xs.length = length) :
    List.ofFn (entries length xs) = xs := by
  subst size
  apply List.ext_getElem
  · simp
  · intro p _ below
    simp [entries, below]

theorem sum_zipIdx {γ : Type} (xs : List γ) (f : γ × ℕ → R) (other : γ) :
    (xs.zipIdx.map f).sum = ∑ j ∈ range xs.length, f (xs.getD j other, j) := by
  have listed : xs.zipIdx.map f = List.ofFn fun j : Fin xs.length => f (xs.getD j other, j) := by
    apply List.ext_getElem
    · simp
    · intro j below _
      simp
  rw [listed, List.sum_ofFn, sum_range fun j => f (xs.getD j other, j)]

theorem correlate_eq (taps : List R) {half length : ℕ} (i : Fin half) {xs : List R}
    (size : xs.length = length) (positive : 0 < length) :
    correlate taps xs.toArray (2 * i) = (rows taps half length *ᵥ entries length xs) i := by
  subst size
  have summed : correlate taps xs.toArray (2 * i) = ∑ j ∈ range taps.length,
      xs.getD ((2 * i + j) % xs.length) 0 * taps.getD j 0 := by
    rw [← sum_zipIdx taps (fun place => xs.getD ((2 * i + place.2) % xs.length) 0 * place.1),
      List.sum_eq_foldl, List.foldl_map]
    simp [correlate]
  simp only [summed, mulVec, dotProduct, rows, of_apply, sum_mul]
  rw [sum_comm]
  refine sum_congr rfl fun j _ => ?_
  have place : (2 * (i : ℕ) + j) % xs.length < xs.length := Nat.mod_lt _ positive
  rw [sum_eq_single (⟨_, place⟩ : Fin xs.length)]
  · rw [if_pos rfl, mul_comm, entries]
  · intro p _ other
    rw [if_neg fun same => other (Fin.ext same.symm), zero_mul]
  · exact fun absent => absurd (mem_univ _) absent

/-- Additions at places of an array, one after another. -/
theorem getD_foldl_modify {γ : Type} (place : γ → ℕ) (amount : γ → R) (xs : List γ) (out : Array R)
    {p : ℕ} (within : p < out.size) :
    (xs.foldl (fun acc x => acc.modify (place x) (· + amount x)) out).getD p 0 =
      out.getD p 0 + (xs.map fun x => if place x = p then amount x else 0).sum := by
  induction xs generalizing out with
  | nil => simp
  | cons x xs ih =>
    have added : (out.modify (place x) (· + amount x)).getD p 0 =
        out.getD p 0 + if place x = p then amount x else 0 := by
      simp only [Array.getD_eq_getD_getElem?, Array.getElem?_modify,
        Array.getElem?_eq_getElem within]
      split_ifs <;> simp
    rw [List.foldl_cons, ih _ (by rwa [Array.size_modify]), added, List.map_cons, List.sum_cons,
      add_assoc]

theorem getD_spread (taps : List (R × R)) (low high : R) (start : ℕ) (out : Array R) {p : ℕ}
    (within : p < out.size) :
    (spread taps low high start out).getD p 0 = out.getD p 0 + ∑ j ∈ range taps.length,
      if (start + j) % out.size = p
      then low * (taps.getD j 0).1 + high * (taps.getD j 0).2 else 0 := by
  rw [spread, ← sum_zipIdx taps (fun place => if (start + place.2) % out.size = p
    then low * place.1.1 + high * place.1.2 else 0)]
  exact getD_foldl_modify (fun place => (start + place.2) % out.size)
    (fun place => low * place.1.1 + high * place.1.2) taps.zipIdx out within

theorem getD_foldl_spread (taps : List (R × R)) (low high : ℕ → R) (count : ℕ) (out : Array R)
    {p : ℕ} (within : p < out.size) :
    ((List.range count).foldl
        (fun out i => spread taps (low i) (high i) (2 * i) out) out).getD p 0 =
      out.getD p 0 + ∑ i ∈ range count, ∑ j ∈ range taps.length,
        if (2 * i + j) % out.size = p
        then low i * (taps.getD j 0).1 + high i * (taps.getD j 0).2 else 0 := by
  induction count with
  | zero => simp
  | succ count ih =>
    have size := size_foldl_spread taps low high (List.range count) out
    rw [List.range_succ, List.foldl_append, List.foldl_cons, List.foldl_nil,
      getD_spread _ _ _ _ _ (size.symm ▸ within), size, ih, sum_range_succ, add_assoc]

variable (w : Wavelet R)

theorem analyse_eq {half : ℕ} {xs : List R} (size : xs.length = 2 * half) :
    w.analyse xs =
      List.ofFn (rows w.scales half (2 * half) *ᵥ entries (2 * half) xs) ++
        List.ofFn (rows w.coeffs half (2 * half) *ᵥ entries (2 * half) xs) := by
  have each (taps : List R) :
      ((List.range half).map (2 * ·)).map (correlate taps xs.toArray) =
        List.ofFn (rows taps half (2 * half) *ᵥ entries (2 * half) xs) := by
    apply List.ext_getElem
    · simp
    · intro i below _
      have within : i < half := by simpa using below
      simpa using correlate_eq taps (⟨i, within⟩ : Fin half) size (by omega)
  simp only [analyse, size, Nat.mul_div_cancel_left half two_pos, each]

theorem getD_zip_coeffs {j : ℕ} (within : j < w.waveLength) :
    (w.scales.zip w.coeffs).getD j 0 = (w.scales.getD j 0, w.coeffs.getD j 0) := by
  have scale : j < w.scales.length := within
  have detail : j < w.coeffs.length := w.length_coeffs.symm ▸ within
  rw [List.getD_eq_getElem _ _ (by simp; omega), List.getD_eq_getElem _ _ scale,
    List.getD_eq_getElem _ _ detail, List.getElem_zip]

theorem getD_synthesise {half : ℕ} {xs : List R} (size : xs.length = 2 * half) {p : ℕ}
    (within : p < 2 * half) :
    (w.synthesise xs).getD p 0 = ∑ i : Fin half, ∑ j ∈ range w.waveLength,
      if (2 * (i : ℕ) + j) % (2 * half) = p
      then xs.getD i 0 * w.scales.getD j 0 + xs.getD (i + half) 0 * w.coeffs.getD j 0 else 0 := by
  have taps : (w.scales.zip w.coeffs).length = w.waveLength := by
    rw [List.length_zip, w.length_coeffs, waveLength, min_self]
  have blank : p < (Array.replicate (2 * half) (0 : R)).size := by rwa [Array.size_replicate]
  have spreads := getD_foldl_spread (w.scales.zip w.coeffs) (xs.toArray.getD · 0)
    (fun i => xs.toArray.getD (i + half) 0) half _ blank
  rw [Array.size_replicate, taps, sum_range] at spreads
  have blanks : (Array.replicate (2 * half) (0 : R)).getD p 0 = 0 := by simp [within]
  have listed : (w.synthesise xs).getD p 0 = ((List.range half).foldl (fun out i =>
      spread (w.scales.zip w.coeffs) (xs.toArray.getD i 0) (xs.toArray.getD (i + half) 0) (2 * i)
        out) (Array.replicate (2 * half) 0)).getD p 0 := by
    simp [synthesise, size]
  rw [listed, spreads, blanks, zero_add]
  refine sum_congr rfl fun i _ => sum_congr rfl fun j below => ?_
  rw [w.getD_zip_coeffs (mem_range.mp below)]
  simp

theorem synthesise_eq {half : ℕ} {xs : List R} (size : xs.length = 2 * half) :
    w.synthesise xs =
      List.ofFn ((rows w.scales half (2 * half))ᵀ *ᵥ entries half xs +
        (rows w.coeffs half (2 * half))ᵀ *ᵥ entries half (xs.drop half)) := by
  apply List.ext_getElem
  · rw [length_synthesise, size, List.length_ofFn]
  · intro p below within
    rw [length_synthesise, size] at below
    rw [← List.getD_eq_getElem _ 0 _, w.getD_synthesise size below, List.getElem_ofFn]
    simp only [Pi.add_apply, mulVec, dotProduct, transpose_apply, rows, of_apply, entries,
      sum_mul, ← sum_add_distrib, w.length_coeffs, show w.scales.length = w.waveLength from rfl]
    refine sum_congr rfl fun i _ => sum_congr rfl fun j _ => ?_
    split_ifs
    · simp [add_comm, mul_comm]
    · simp

end GestureLexicon.Wavelet
