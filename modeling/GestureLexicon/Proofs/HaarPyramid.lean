import GestureLexicon.Proofs.LineTransform
import GestureLexicon.Proofs.NamedWavelets

/-!
The pyramid as one function of the signal, and the pyramid on the Haar wavelet of a signal read
backwards. Each pass turns the approximations round and turns the details round with their sign, so
the result is that of the signal with its leading block and, negated, each detail band reversed.
-/

namespace GestureLexicon

namespace Wavelet

section
variable {α : Type} [Zero α] [Add α] [Mul α] [Neg α] (w : Wavelet α)

/-- Filters so many times, every time the approximations that the last time left. -/
def cascade : ℕ → List α → List α
  | 0, xs => xs
  | passes + 1, xs =>
    cascade passes ((w.analyse xs).take (xs.length / 2)) ++ (w.analyse xs).drop (xs.length / 2)

theorem forward_none {xs : List α} (power : xs.length.isPowerOfTwo)
    (holds : w.waveLength ≤ xs.length) : w.forward xs none = .ok (w.analyse xs) := by
  rw [forward, w.guarded_of_isPowerOfTwo _ power, if_neg]
  rintro (absent | short)
  · exact nomatch absent
  · exact short.not_ge holds

theorem length_halves {m : ℕ} {xs : List α} (size : xs.length = 2 ^ (m + 1)) :
    xs.length / 2 = 2 ^ m ∧ ((w.analyse xs).take (2 ^ m)).length = 2 ^ m ∧
      ((w.analyse xs).drop (2 ^ m)).length = 2 ^ m := by
  have twice : 2 ^ (m + 1) = 2 ^ m + 2 ^ m := by ring
  have even : xs.length % 2 = 0 := by omega
  have kept := w.length_analyse even
  rw [List.length_take, List.length_drop]
  omega

theorem length_cascade {passes m : ℕ} (within : passes ≤ m) {xs : List α}
    (size : xs.length = 2 ^ m) : (w.cascade passes xs).length = 2 ^ m := by
  induction passes generalizing m xs with
  | zero => exact size
  | succ passes ih =>
    obtain ⟨m, rfl⟩ := Nat.exists_eq_add_of_le' (by omega : 1 ≤ m)
    obtain ⟨half, low, high⟩ := w.length_halves size
    rw [cascade, half, List.length_append, ih (by omega) low, high, pow_succ, mul_two]

/-- The passes at the narrowing widths leave alone what follows the signal. -/
theorem foldlM_narrowing {passes m : ℕ} (within : passes ≤ w.depth (2 ^ m)) {xs : List α}
    (size : xs.length = 2 ^ m) (rest : List α) :
    (Levels.narrowing passes (2 ^ m)).foldlM (onLeading (w.forward · none)) (xs ++ rest) =
      .ok (w.cascade passes xs ++ rest) := by
  induction passes generalizing m xs rest with
  | zero => rfl
  | succ passes ih =>
    obtain ⟨m, rfl, holds, within⟩ := w.exists_half_of_lt_depth within
    obtain ⟨half, low, _⟩ := w.length_halves size
    have narrower : 2 ^ (m + 1) / 2 = 2 ^ m := by rw [← size, half]
    have first : onLeading (w.forward · none) (xs ++ rest) (2 ^ (m + 1)) =
        .ok ((w.analyse xs).take (2 ^ m) ++ ((w.analyse xs).drop (2 ^ m) ++ rest)) := by
      rw [onLeading, List.take_left' size, List.drop_left' size,
        w.forward_none ⟨m + 1, size⟩ (size ▸ holds), ← List.append_assoc, List.take_append_drop]
      rfl
    rw [Levels.narrowing, List.foldlM_cons, first, narrower, cascade, half, List.append_assoc]
    exact ih within low _

theorem pyramidForward_eq {xs : List α} (power : xs.length.isPowerOfTwo) (level : Option Int) :
    w.pyramidForward xs level = .ok (w.cascade (w.levelCount xs.length level).toNat xs) := by
  rw [pyramidForward, w.descend_eq _ _ power, widths]
  obtain ⟨m, size⟩ := power
  have within := w.levelCount_le xs.length level
  rw [size] at within ⊢
  simpa using w.foldlM_narrowing within size []

end

section
variable {R : Type} [CommRing R] {half i : ℕ} {xs : List R}

theorem correlate_pair (a b : R) (size : xs.length = 2 * half) (below : i < half) :
    correlate [a, b] xs.toArray (2 * i) = xs.getD (2 * i) 0 * a + xs.getD (2 * i + 1) 0 * b := by
  have first : 2 * i % xs.length = 2 * i := Nat.mod_eq_of_lt (by omega)
  have second : (2 * i + 1) % xs.length = 2 * i + 1 := Nat.mod_eq_of_lt (by omega)
  simp [correlate, first, second]

theorem getD_reverse {p : ℕ} (below : p < xs.length) :
    xs.reverse.getD p 0 = xs.getD (xs.length - 1 - p) 0 := by
  rw [List.getD_eq_getElem _ _ (by rwa [List.length_reverse]), List.getElem_reverse,
    List.getD_eq_getElem]

/-- Two coefficients meet a signal read backwards as they meet the signal the other way round, in
the pair as far from its end. -/
theorem correlate_reverse (a b : R) (size : xs.length = 2 * half) (below : i < half) :
    correlate [a, b] xs.reverse.toArray (2 * i) =
      correlate [b, a] xs.toArray (2 * (half - 1 - i)) := by
  rw [correlate_pair a b (by rwa [List.length_reverse]) below,
    correlate_pair b a size (by omega), getD_reverse (by omega), getD_reverse (by omega), add_comm,
    size, show 2 * half - 1 - (2 * i + 1) = 2 * (half - 1 - i) by omega,
    show 2 * half - 1 - 2 * i = 2 * (half - 1 - i) + 1 by omega]

theorem map_correlate_reverse (a b : R) (size : xs.length = 2 * half) :
    ((List.range half).map (2 * ·)).map (correlate [a, b] xs.reverse.toArray) =
      (((List.range half).map (2 * ·)).map (correlate [b, a] xs.toArray)).reverse := by
  apply List.ext_getElem
  · simp
  · intro i below _
    have inside : i < half := by simpa using below
    simp [correlate_reverse a b size inside]

theorem map_correlate_neg (a b : R) (size : xs.length = 2 * half) :
    ((List.range half).map (2 * ·)).map (correlate [-a, -b] xs.toArray) =
      (((List.range half).map (2 * ·)).map (correlate [a, b] xs.toArray)).map (- ·) := by
  apply List.ext_getElem
  · simp
  · intro i below _
    have inside : i < half := by simpa using below
    simp only [List.getElem_map, List.getElem_range, correlate_pair _ _ size inside]
    ring

end

theorem haar_taps : ∃ tap : ℝ, (haar : Wavelet ℝ).scales = [tap, tap] ∧
    (haar : Wavelet ℝ).coeffs = [tap, -tap] :=
  ⟨_, rfl, rfl⟩

theorem analyse_haar_reverse {half : ℕ} {xs : List ℝ} (size : xs.length = 2 * half) :
    haar.analyse xs.reverse = ((haar.analyse xs).take half).reverse ++
      ((haar.analyse xs).drop half).reverse.map (- ·) := by
  obtain ⟨tap, sums, differences⟩ := haar_taps
  have opened {ys : List ℝ} (size : ys.length = 2 * half) : haar.analyse ys =
      ((List.range half).map (2 * ·)).map (correlate [tap, tap] ys.toArray) ++
        ((List.range half).map (2 * ·)).map (correlate [tap, -tap] ys.toArray) := by
    simp only [analyse, size, sums, differences, Nat.mul_div_cancel_left half two_pos]
  have turned := map_correlate_neg tap (-tap) size
  rw [neg_neg] at turned
  have low : (((List.range half).map (2 * ·)).map (correlate [tap, tap] xs.toArray)).length =
      half := by simp
  rw [opened (List.length_reverse.trans size), opened size, List.take_left' low,
    List.drop_left' low, map_correlate_reverse tap tap size, map_correlate_reverse tap (-tap) size,
    turned, List.map_reverse]

end Wavelet

/-- The coefficients that a pass adds: of the first pass the later half, of the next the later half
of what is left, and so on. -/
def detailBand {α : Type} (xs : List α) (pass : ℕ) : List α :=
  (xs.take (xs.length >>> (pass - 1))).drop (xs.length >>> pass)

section
variable {α : Type} {low high : List α}

theorem shiftRight_append (size : high.length = low.length) (pass : ℕ) :
    (low ++ high).length >>> (pass + 1) = low.length >>> pass := by
  rw [List.length_append, size, ← two_mul, Nat.shiftRight_succ_inside,
    Nat.mul_div_cancel_left _ two_pos]

theorem detailBand_one (size : high.length = low.length) : detailBand (low ++ high) 1 = high := by
  unfold detailBand
  rw [shiftRight_append size 0]
  change ((low ++ high).take (low ++ high).length).drop low.length = high
  rw [List.take_length, List.drop_left' rfl]

theorem detailBand_succ (size : high.length = low.length) (pass : ℕ) :
    detailBand (low ++ high) (pass + 2) = detailBand low (pass + 1) := by
  unfold detailBand
  rw [shiftRight_append size, Nat.add_sub_cancel, show pass + 2 - 1 = pass + 1 by omega,
    shiftRight_append size, List.take_append_of_le_length (Nat.shiftRight_le _ _)]

end

/-- Coefficients of as many passes, of a signal and of the signal read backwards: the leading block
is reversed and each detail band is reversed and negated. -/
structure Mirrored (passes : ℕ) (x y : List ℝ) : Prop where
  length : y.length = x.length
  leading : y.take (x.length >>> passes) = (x.take (x.length >>> passes)).reverse
  bands : ∀ k, 1 ≤ k → k ≤ passes → detailBand y k = (detailBand x k).reverse.map (- ·)

/-- One pass more before all others. -/
theorem Mirrored.append {passes : ℕ} {x y high : List ℝ} (mirrored : Mirrored passes x y)
    (size : high.length = x.length) :
    Mirrored (passes + 1) (x ++ high) (y ++ high.reverse.map (- ·)) := by
  have within : x.length >>> passes ≤ x.length := Nat.shiftRight_le _ _
  have sizeOther : (high.reverse.map (- ·)).length = y.length := by simp [size, mirrored.length]
  refine ⟨by simp [mirrored.length], ?_, fun k least most => ?_⟩
  · rw [shiftRight_append size, List.take_append_of_le_length within,
      List.take_append_of_le_length (within.trans mirrored.length.ge), mirrored.leading]
  · obtain rfl | ⟨k, rfl⟩ : k = 1 ∨ ∃ j, k = j + 2 := by
      rcases least.eq_or_lt with rfl | more
      · exact .inl rfl
      · exact .inr (Nat.exists_eq_add_of_le' more)
    · rw [detailBand_one size, detailBand_one sizeOther]
    · rw [detailBand_succ size, detailBand_succ sizeOther]
      exact mirrored.bands (k + 1) (by omega) (by omega)

theorem mirrored_cascade {passes m : ℕ} (within : passes ≤ m) {xs : List ℝ}
    (size : xs.length = 2 ^ m) :
    Mirrored passes (Wavelet.haar.cascade passes xs) (Wavelet.haar.cascade passes xs.reverse) := by
  induction passes generalizing m xs with
  | zero =>
    refine ⟨List.length_reverse, ?_, fun k least most => absurd most (by omega)⟩
    change xs.reverse.take xs.length = (xs.take xs.length).reverse
    rw [List.take_length, ← List.length_reverse, List.take_length]
  | succ passes ih =>
    obtain ⟨m, rfl⟩ := Nat.exists_eq_add_of_le' (by omega : 1 ≤ m)
    obtain ⟨half, low, high⟩ := Wavelet.haar.length_halves size
    have turned := Wavelet.analyse_haar_reverse (size.trans (pow_succ' 2 m))
    have lowTurned : ((Wavelet.haar.analyse xs).take (2 ^ m)).reverse.length = 2 ^ m :=
      List.length_reverse.trans low
    have mirrored := (ih (by omega) low).append
      (high.trans (Wavelet.haar.length_cascade (by omega) low).symm)
    rw [Wavelet.cascade, Wavelet.cascade, List.length_reverse, half, turned,
      List.take_left' lowTurned, List.drop_left' lowTurned]
    exact mirrored

theorem Wavelet.depth_haar (m : ℕ) : (haar : Wavelet ℝ).depth (2 ^ m) = m :=
  haar.depth_two_pow rfl m

def OppositeSlopes (x y : List ℝ) : Prop :=
  y[0]? = x[0]? ∧ y[1]? = x[1]?.map fun value : ℝ => -value

theorem Mirrored.oppositeSlopes {m : ℕ} {x y : List ℝ} (mirrored : Mirrored (m + 1) x y)
    (size : x.length = 2 ^ (m + 1)) : OppositeSlopes x y := by
  have one : x.length >>> (m + 1) = 1 := by
    rw [size, Nat.shiftRight_eq_div_pow, Nat.div_self (by positivity)]
  have two : x.length >>> (m + 1 - 1) = 2 := by
    rw [size, Nat.add_sub_cancel, Nat.shiftRight_eq_div_pow, pow_succ,
      Nat.mul_div_cancel_left _ (by positivity)]
  have leading := mirrored.leading
  have last := mirrored.bands (m + 1) (Nat.le_add_left 1 m) le_rfl
  unfold detailBand at last
  rw [one] at leading
  rw [mirrored.length, one, two] at last
  have enough : 2 ≤ x.length := by
    rw [size]
    exact Nat.le_self_pow (Nat.succ_ne_zero m) 2
  have enoughOther := mirrored.length.symm ▸ enough
  match x, y, enough, enoughOther, leading, last with
  | a :: b :: _, c :: d :: _, _, _, leading, last =>
    obtain rfl : c = a := by simpa using leading
    obtain rfl : d = -b := by simpa using last
    exact ⟨rfl, rfl⟩

def Transform.IsHaarPyramid (t : Transform ℝ) : Prop :=
  t = .pyramid .haar ∨ t = .decomposed (.pyramid .haar)

/-- A signal and the signal read backwards have mirrored coefficients of as many passes as the
level allows, and opposite second ones if these are all. -/
def Transform.Mirrors (t : Transform ℝ) (xs : List ℝ) (level : Option Int) : Prop :=
  let passes := ((Wavelet.haar : Wavelet ℝ).levelCount xs.length level).toNat
  ∃ x y, t.forward xs level = .ok x ∧ t.forward xs.reverse level = .ok y ∧
    x.length = xs.length ∧ Mirrored passes x y ∧
      (passes = (Wavelet.haar : Wavelet ℝ).depth xs.length → OppositeSlopes x y)

theorem Transform.IsHaarPyramid.mirrors {t : Transform ℝ} (pyramid : t.IsHaarPyramid) {xs : List ℝ}
    (power : xs.length.isPowerOfTwo) (several : 2 ≤ xs.length) (level : Option Int) :
    t.Mirrors xs level := by
  unfold Mirrors
  intro passes
  have passed {ys : List ℝ} (power : ys.length.isPowerOfTwo) (several : 2 ≤ ys.length) :
      t.forward ys level = .ok ((Wavelet.haar : Wavelet ℝ).cascade
        ((Wavelet.haar : Wavelet ℝ).levelCount ys.length level).toNat ys) := by
    rw [← Wavelet.pyramidForward_eq _ power]
    rcases pyramid with rfl | rfl
    · rfl
    · change LineTransform.onParts _ ys level = _
      rw [onParts_eq_onPart _ power, onPart, if_neg (by omega)]
      rfl
  have there : t.forward xs level = .ok ((Wavelet.haar : Wavelet ℝ).cascade passes xs) :=
    passed power several
  have back : t.forward xs.reverse level =
      .ok ((Wavelet.haar : Wavelet ℝ).cascade passes xs.reverse) := by
    simpa only [List.length_reverse] using @passed xs.reverse (by rwa [List.length_reverse])
      (by rwa [List.length_reverse])
  have within : passes ≤ (Wavelet.haar : Wavelet ℝ).depth xs.length :=
    Wavelet.haar.levelCount_le xs.length level
  obtain ⟨m, size⟩ := power
  rw [size, Wavelet.depth_haar] at within ⊢
  have kept := Wavelet.haar.length_cascade within size
  have mirrored := mirrored_cascade within size
  refine ⟨_, _, there, back, kept, mirrored, fun full => ?_⟩
  obtain ⟨m, rfl⟩ : ∃ less, m = less + 1 := by
    apply Nat.exists_eq_add_of_le'
    by_contra less
    obtain rfl : m = 0 := by omega
    omega
  rw [full] at mirrored kept ⊢
  exact mirrored.oppositeSlopes kept

end GestureLexicon
