import GestureLexicon.Proofs.Axes
import GestureLexicon.Proofs.Composition
import GestureLexicon.Proofs.FilterBank

/-!
Linear steps. Entries that depend linearly on something go to entries that do so too, whichever the
wavelet is. So every transform multiplies the lines of a length with a matrix, and the coefficients
of a combination of two lines are the same combination of theirs.
-/

namespace GestureLexicon
open Matrix
variable {R : Type} [CommRing R] {length : ℕ}

/-- A step takes entries that depend linearly on something to entries that depend linearly on it. -/
def ActsLinearly (length : ℕ) (step : List R → Except TransformError (List R)) : Prop :=
  ∀ (M : Type) [AddCommGroup M] [Module R M] (xs : List (M →ₗ[R] R)), xs.length = length →
    ∃ ys : List (M →ₗ[R] R), ys.length = length ∧ ∀ v, step (xs.map (· v)) = .ok (ys.map (· v))

theorem composable_actsLinearly : Composable (ActsLinearly (R := R)) where
  pass _ _ _ _ xs size := ⟨xs, size, fun _ => rfl⟩
  congr := by
    intro length step same linear equal M _ _ xs size
    obtain ⟨ys, kept, sent⟩ := linear M xs size
    refine ⟨ys, kept, fun v => ?_⟩
    rw [equal _ (by rwa [List.length_map]), sent]
  bind := by
    intro length step next first second M _ _ xs size
    obtain ⟨ys, kept, sent⟩ := first M xs size
    obtain ⟨zs, keptOn, sentOn⟩ := second M ys kept
    refine ⟨zs, keptOn, fun v => ?_⟩
    change step _ >>= next = _
    rw [sent]
    exact sentOn v
  beside := by
    intro width length step next first second M _ _ xs size
    obtain ⟨ys, kept, sent⟩ := first M (xs.take width) (by rw [List.length_take]; omega)
    obtain ⟨zs, keptRest, sentRest⟩ := second M (xs.drop width) (by rw [List.length_drop]; omega)
    refine ⟨ys ++ zs, by rw [List.length_append, kept, keptRest], fun v => ?_⟩
    rw [beside, ← List.map_take, ← List.map_drop, sent, sentRest, List.map_append]
    rfl

section
variable {M : Type} [AddCommGroup M] [Module R M] {rows : ℕ}

theorem eval_sum (m : Matrix (Fin rows) (Fin length) R) (xs : List (M →ₗ[R] R)) (i : Fin rows)
    (v : M) : (∑ q, m i q • xs.getD q 0) v = (m *ᵥ Wavelet.entries length (xs.map (· v))) i := by
  have entry (q : Fin length) : Wavelet.entries length (xs.map (· v)) q = xs.getD q 0 v :=
    List.getD_map (f := fun x : M →ₗ[R] R => x v) (d := 0) ..
  simp only [LinearMap.sum_apply, LinearMap.smul_apply, smul_eq_mul, mulVec, dotProduct, entry]

end

namespace Wavelet
variable (w : Wavelet R)

theorem actsLinearly_analyse {half : ℕ} : ActsLinearly (2 * half) (.ok <| w.analyse ·) := by
  intro M _ _ xs size
  refine ⟨(List.ofFn fun i => ∑ q, rows w.scales half (2 * half) i q • xs.getD q 0) ++
    List.ofFn fun i => ∑ q, rows w.coeffs half (2 * half) i q • xs.getD q 0, ?_, fun v => ?_⟩
  · rw [List.length_append, List.length_ofFn, List.length_ofFn, two_mul]
  · apply congrArg Except.ok
    rw [w.analyse_eq (by rwa [List.length_map]), List.map_append, List.map_ofFn, List.map_ofFn]
    congr 2 <;> funext i <;> exact (eval_sum _ xs i v).symm

theorem actsLinearly_synthesise {half : ℕ} : ActsLinearly (2 * half) (.ok <| w.synthesise ·) := by
  intro M _ _ xs size
  refine ⟨List.ofFn fun p => ∑ q, (rows w.scales half (2 * half))ᵀ p q • xs.getD q 0 +
    ∑ q, (rows w.coeffs half (2 * half))ᵀ p q • (xs.drop half).getD q 0, List.length_ofFn,
    fun v => ?_⟩
  apply congrArg Except.ok
  rw [w.synthesise_eq (by rwa [List.length_map]), List.map_ofFn, ← List.map_drop]
  congr 1
  funext p
  rw [Function.comp_apply, LinearMap.add_apply, eval_sum, eval_sum, Pi.add_apply]

end Wavelet

/-- A transform is linear in both directions, whichever the wavelet is. -/
theorem Transform.actsLinearly (t : Transform R) (d : Direction) {level : Option Int}
    (allowed : LevelAllowed level) (accepted : t.Accepts length) :
    ActsLinearly length (t.line.step d level) := by
  have even {width : ℕ} (power : width.isPowerOfTwo) (wide : t.wavelet.waveLength ≤ width) :
      ∃ half, width = 2 * half := Nat.dvd_of_mod_eq_zero (t.wavelet.even_of_holds power wide)
  cases d with
  | forward =>
    refine composable_actsLinearly.forward t accepted fun width power wide => ?_
    obtain ⟨half, rfl⟩ := even power wide
    exact t.wavelet.actsLinearly_analyse
  | reverse =>
    refine composable_actsLinearly.reverse t allowed accepted fun width power wide => ?_
    obtain ⟨half, rfl⟩ := even power wide
    exact t.wavelet.actsLinearly_synthesise

namespace ActsLinearly
variable {step : List R → Except TransformError (List R)}

/-- A linear step multiplies the lines of a length with a matrix. -/
theorem exists_matrix (linear : ActsLinearly length step) :
    ∃ m : Matrix (Fin length) (Fin length) R,
      ∀ v, step (List.ofFn v) = .ok (List.ofFn (m *ᵥ v)) := by
  -- The entries of any line depend linearly on the line itself.
  let coordinates : List ((Fin length → R) →ₗ[R] R) := List.ofFn LinearMap.proj
  obtain ⟨ys, kept, sent⟩ := linear (Fin length → R) coordinates List.length_ofFn
  obtain ⟨f, rfl⟩ : ∃ f : Fin length → (Fin length → R) →ₗ[R] R, ys = List.ofFn f := by
    refine ⟨fun p => ys.getD p 0, List.ext_getElem (by simp [kept]) fun p below _ => ?_⟩
    simp [below]
  let m : Matrix (Fin length) (Fin length) R := .of fun p q => f p fun r => if q = r then 1 else 0
  refine ⟨m, fun v => ?_⟩
  have line : coordinates.map (· v) = List.ofFn v := List.map_ofFn ..
  have image : (List.ofFn f).map (· v) = List.ofFn (m *ᵥ v) := by
    rw [List.map_ofFn]
    congr 1
    funext p
    rw [Function.comp_apply, LinearMap.pi_apply_eq_sum_univ]
    simp [m, mulVec, dotProduct, mul_comm]
  rw [← line, sent, image]

theorem combine (linear : ActsLinearly length step) {xs ys : List R} (size : xs.length = length)
    (sizeOther : ys.length = length) :
    ∃ us vs, step xs = .ok us ∧ step ys = .ok vs ∧ us.length = length ∧ vs.length = length ∧
      ∀ a b, step (List.zipWith (fun x y => a * x + b * y) xs ys) =
        .ok (List.zipWith (fun u v => a * u + b * v) us vs) := by
  let entry (p : R × R) : (R × R) →ₗ[R] R := p.1 • LinearMap.fst R R R + p.2 • LinearMap.snd R R R
  have lines (a b : R) : ((xs.zip ys).map entry).map (· (a, b)) =
      List.zipWith (fun x y => a * x + b * y) xs ys := by
    rw [List.map_map, ← List.map_uncurry_zip_eq_zipWith]
    apply List.map_congr_left
    intro p _
    simp [entry, Function.uncurry, mul_comm]
  obtain ⟨zs, kept, sent⟩ := linear (R × R) ((xs.zip ys).map entry) (by simp [size, sizeOther])
  have images (a b : R) : zs.map (· (a, b)) = List.zipWith (fun u v => a * u + b * v)
      (zs.map (· (1, 0))) (zs.map (· (0, 1))) := by
    rw [List.zipWith_map, List.zipWith_self]
    apply List.map_congr_left
    intro z _
    rw [← smul_eq_mul, ← smul_eq_mul, ← map_smul, ← map_smul, ← map_add]
    simp
  have first : List.zipWith (fun x y => 1 * x + 0 * y) xs ys = xs := by
    rw [← List.map_uncurry_zip_eq_zipWith]
    simpa [Function.uncurry_def] using List.map_fst_zip (by omega : xs.length ≤ ys.length)
  have second : List.zipWith (fun x y => 0 * x + 1 * y) xs ys = ys := by
    rw [← List.map_uncurry_zip_eq_zipWith]
    simpa [Function.uncurry_def] using List.map_snd_zip (by omega : ys.length ≤ xs.length)
  refine ⟨zs.map (· (1, 0)), zs.map (· (0, 1)), ?_, ?_, by simpa using kept, by simpa using kept,
    fun a b => ?_⟩
  · rw [← sent, lines, first]
  · rw [← sent, lines, second]
  · rw [← lines, sent, images]

end ActsLinearly

end GestureLexicon
