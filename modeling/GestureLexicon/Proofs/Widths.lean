import GestureLexicon.Transform
import Mathlib

/-!
The widths that a transform filters at. On a power-of-two length they are powers of two that hold
the wavelet, and the way back meets them in the opposite order. The parts of any other length are
powers of two that add up to it.
-/

namespace GestureLexicon

theorem isPowerOfTwo_iff (n : Nat) : isPowerOfTwo n = true ↔ n.isPowerOfTwo := by
  rw [← Nat.ne_zero_and_sub_one_eq_zero_iff_isPowerOfTwo]
  simp [isPowerOfTwo, Nat.pos_iff_ne_zero]

/-- A bound on the levels that is absent or no negative number. -/
def LevelAllowed (level : Option Int) : Prop :=
  ∀ bound, level = some bound → 0 ≤ bound

theorem levelAllowed_map (level : Option Nat) : LevelAllowed (level.map Int.ofNat) := by
  rintro bound given
  obtain ⟨count, _, rfl⟩ := Option.map_eq_some_iff.mp given
  exact Int.natCast_nonneg count

namespace Levels

theorem widening_of_le {width full : Nat} (positive : 0 < width) (fits : width ≤ full) :
    widening width full = width :: widening (2 * width) full := by
  rw [widening, if_pos ⟨positive, fits⟩]

theorem widening_of_lt {width full : Nat} (past : full < width) : widening width full = [] := by
  rw [widening, if_neg (by omega)]

theorem widening_double {start finish : Nat} (ordered : start ≤ finish) :
    widening (2 ^ start) (2 ^ (finish + 1)) =
      widening (2 ^ start) (2 ^ finish) ++ [2 ^ (finish + 1)] := by
  have below {more : Nat} (ordered : start ≤ more) : 2 ^ start ≤ 2 ^ more :=
    Nat.pow_le_pow_right (by omega) ordered
  rw [widening_of_le (by positivity) (below (by omega)), ← pow_succ',
    widening_of_le (by positivity) (below ordered), ← pow_succ', List.cons_append]
  -- The induction is on the steps that are left, since the narrowest width moves up.
  induction steps : finish - start generalizing start with
  | zero =>
    obtain rfl : start = finish := by omega
    have grows : 2 ^ start < 2 ^ (start + 1) := Nat.pow_lt_pow_right (by omega) (by omega)
    rw [widening_of_le (by positivity) le_rfl, widening_of_lt (by omega), widening_of_lt grows]
    rfl
  | succ steps ih =>
    have above {more : Nat} (ordered : start + 1 ≤ more) : 2 ^ (start + 1) ≤ 2 ^ more :=
      Nat.pow_le_pow_right (by omega) ordered
    have next := ih (by omega) above (by omega)
    rw [widening_of_le (by positivity) (above (by omega)), ← pow_succ',
      widening_of_le (by positivity) (above (by omega)), ← pow_succ', List.cons_append, next]

/-- The widths from the narrowest up are those from the full length down, read backwards. -/
theorem widening_eq_reverse (start steps : Nat) :
    widening (2 ^ start) (2 ^ (start + steps)) =
      (narrowing (steps + 1) (2 ^ (start + steps))).reverse := by
  induction steps with
  | zero =>
    have grows : 2 ^ start < 2 * 2 ^ start := by
      have := Nat.two_pow_pos start
      omega
    rw [Nat.add_zero, widening_of_le (by positivity) le_rfl, widening_of_lt grows]
    rfl
  | succ steps ih =>
    have halved : 2 ^ (start + steps + 1) / 2 = 2 ^ (start + steps) := by
      rw [pow_succ, Nat.mul_div_cancel _ two_pos]
    rw [← Nat.add_assoc, narrowing, halved, List.reverse_cons, ← ih,
      widening_double (by omega)]

end Levels

namespace Wavelet
variable {α : Type} (w : Wavelet α)

theorem two_le_waveLength : 2 ≤ w.waveLength := w.two_le

/-- The widths at which a signal is filtered, the full length first. -/
def widths (length : Nat) (level : Option Int) : List Nat :=
  Levels.narrowing (w.levelCount length level).toNat length

theorem depth_of_le {length : Nat} (holds : w.waveLength ≤ length) :
    w.depth length = w.depth (length / 2) + 1 := by
  rw [depth, dif_pos holds]

theorem depth_of_lt {length : Nat} (short : length < w.waveLength) : w.depth length = 0 := by
  rw [depth, dif_neg (by omega)]

theorem depth_one : w.depth 1 = 0 := w.depth_of_lt w.two_le_waveLength

theorem depth_two_pow (two : w.waveLength = 2) (m : Nat) : w.depth (2 ^ m) = m := by
  induction m with
  | zero => exact w.depth_of_lt (by rw [two]; decide)
  | succ m ih =>
    have holds : w.waveLength ≤ 2 ^ (m + 1) := by
      rw [two]
      exact Nat.le_self_pow (Nat.succ_ne_zero m) 2
    rw [w.depth_of_le holds, pow_succ, Nat.mul_div_cancel _ two_pos, ih]

theorem levelCount_le (length : Nat) (level : Option Int) :
    (w.levelCount length level).toNat ≤ w.depth length := by
  cases level <;> simp only [levelCount, Int.toNat_natCast] <;> omega

theorem levelCount_nonneg (length : Nat) {level : Option Int} (allowed : LevelAllowed level) :
    0 ≤ w.levelCount length level := by
  cases level with
  | none => simp only [levelCount]; omega
  | some bound =>
    have := allowed bound rfl
    simp only [levelCount]
    omega

theorem exists_half_of_lt_depth {passes size : Nat} (within : passes < w.depth (2 ^ size)) :
    ∃ smaller, size = smaller + 1 ∧ w.waveLength ≤ 2 ^ (smaller + 1) ∧
      passes ≤ w.depth (2 ^ smaller) := by
  have holds : w.waveLength ≤ 2 ^ size := by
    by_contra short
    rw [depth_of_lt w (by omega)] at within
    omega
  obtain ⟨smaller, rfl⟩ : ∃ smaller, size = smaller + 1 := by
    refine Nat.exists_eq_succ_of_ne_zero ?_
    rintro rfl
    have := w.two_le_waveLength
    omega
  rw [depth_of_le w holds, pow_succ, Nat.mul_div_cancel _ two_pos] at within
  exact ⟨smaller, rfl, holds, Nat.le_of_lt_succ within⟩

/-- As far as the depth goes, the narrowing widths of a power of two are powers of two that hold the
wavelet. -/
theorem mem_narrowing {count size width : Nat} (within : count ≤ w.depth (2 ^ size))
    (member : width ∈ Levels.narrowing count (2 ^ size)) :
    ∃ k ≤ size, width = 2 ^ k ∧ w.waveLength ≤ 2 ^ k := by
  induction count generalizing size with
  | zero => simp [Levels.narrowing] at member
  | succ count ih =>
    obtain ⟨smaller, rfl, holds, within⟩ := w.exists_half_of_lt_depth within
    rcases List.mem_cons.mp member with same | later
    · exact ⟨smaller + 1, le_rfl, same, holds⟩
    · rw [pow_succ, Nat.mul_div_cancel _ two_pos] at later
      obtain ⟨k, bound, rest⟩ := ih within later
      exact ⟨k, by omega, rest⟩

theorem depth_le (size : Nat) : w.depth (2 ^ size) ≤ size := by
  induction size with
  | zero =>
    have := w.two_le_waveLength
    rw [depth_of_lt w (by simp; omega)]
  | succ size ih =>
    by_cases holds : w.waveLength ≤ 2 ^ (size + 1)
    · rw [depth_of_le w holds, pow_succ, Nat.mul_div_cancel _ two_pos]
      omega
    · rw [depth_of_lt w (by omega)]
      omega

theorem mem_widths {length width : Nat} {level : Option Int} (power : length.isPowerOfTwo)
    (member : width ∈ w.widths length level) :
    width.isPowerOfTwo ∧ width ∣ length ∧ w.waveLength ≤ width := by
  obtain ⟨size, rfl⟩ := power
  obtain ⟨k, within, rfl, holds⟩ := w.mem_narrowing (w.levelCount_le _ level) member
  exact ⟨⟨k, rfl⟩, Nat.pow_dvd_pow 2 within, holds⟩

/-- Filtering level by level runs through the widths. -/
theorem descend_eq (pass : List α → Nat → Except TransformError (List α)) (stage : Stage)
    {xs : List α} (power : xs.length.isPowerOfTwo) (level : Option Int) :
    descend pass stage w xs level = (w.widths xs.length level).foldlM pass xs := by
  have accepted := (isPowerOfTwo_iff _).mpr power
  simp only [descend, accepted, widths, Bool.not_true, Bool.false_eq_true, ↓reduceIte]

/-- Doubling from the narrowest width on meets the same widths as halving, and then the full length
is passed. -/
theorem widening_narrowest {length : Nat} {level : Option Int} (power : length.isPowerOfTwo)
    (positive : 0 < w.levelCount length level) :
    Levels.widening (length >>> (w.levelCount length level - 1).toNat) length =
      (w.widths length level).reverse := by
  obtain ⟨steps, counted⟩ : ∃ steps : Nat, w.levelCount length level = steps + 1 :=
    ⟨(w.levelCount length level - 1).toNat, by omega⟩
  have within := w.levelCount_le length level
  obtain ⟨size, rfl⟩ := power
  have shallow := w.depth_le size
  obtain ⟨start, rfl⟩ := Nat.exists_eq_add_of_le' (by omega : steps ≤ size)
  have narrowest : 2 ^ (start + steps) >>> steps = 2 ^ start := by
    rw [Nat.shiftRight_eq_div_pow, pow_add, Nat.mul_div_cancel _ (by positivity)]
  rw [widths, counted, show ((steps : Int) + 1 - 1).toNat = steps by omega,
    show ((steps : Int) + 1).toNat = steps + 1 by omega, narrowest, Levels.widening_eq_reverse]

theorem ascend_eq (pass : List α → Nat → Except TransformError (List α)) (stage : Stage)
    {xs : List α} (power : xs.length.isPowerOfTwo) {level : Option Int}
    (allowed : LevelAllowed level) :
    ascend pass stage w xs level = (w.widths xs.length level).reverse.foldlM pass xs := by
  have accepted := (isPowerOfTwo_iff _).mpr power
  have least := w.levelCount_nonneg xs.length allowed
  simp only [ascend, accepted, Bool.not_true, Bool.false_eq_true, ↓reduceIte, least.not_gt]
  by_cases zero : w.levelCount xs.length level = 0
  · rw [if_pos zero, widths, zero]
    rfl
  · rw [if_neg zero, w.widening_narrowest power (by omega)]

end Wavelet

namespace Multipliers

theorem power_eq (p : Nat) : power p = 2 ^ p := by
  rw [power, Nat.shiftLeft_eq, Nat.one_mul]

theorem sum_below (n width : Nat) : ((below n width).map power).sum = n % 2 ^ width := by
  induction width with
  | zero => simp [below, Nat.mod_one]
  | succ width ih =>
    rw [Nat.mod_pow_succ, below]
    cases bit : n.testBit width with
    | true =>
      have digit : n / 2 ^ width % 2 = 1 := by simpa [Nat.testBit_eq_decide_div_mod_eq] using bit
      simp only [↓reduceIte, List.map_cons, List.sum_cons, ih, power_eq, digit]
      omega
    | false =>
      have digit : n / 2 ^ width % 2 = 0 := by simpa [Nat.testBit_eq_decide_div_mod_eq] using bit
      simp only [Bool.false_eq_true, ↓reduceIte, ih, digit, Nat.mul_zero, Nat.add_zero]

def sizes (length : Nat) : List Nat :=
  (ofNat length).map power

theorem sum_sizes (length : Nat) : (sizes length).sum = length := by
  rw [sizes, ofNat, sum_below, Nat.mod_eq_of_lt Nat.lt_log2_self]

theorem below_two_pow {m width : Nat} (short : width ≤ m) : below (2 ^ m) width = [] := by
  induction width with
  | zero => rfl
  | succ width ih =>
    have other : m ≠ width := by omega
    rw [below, Nat.testBit_two_pow_of_ne other]
    exact ih (by omega)

theorem sizes_two_pow (m : Nat) : sizes (2 ^ m) = [2 ^ m] := by
  rw [sizes, ofNat, Nat.log2_two_pow, below, Nat.testBit_two_pow_self, if_pos rfl,
    below_two_pow le_rfl, List.map_singleton, power_eq]

theorem isPowerOfTwo_of_mem_sizes {length size : Nat} (member : size ∈ sizes length) :
    size.isPowerOfTwo := by
  obtain ⟨p, _, rfl⟩ := List.mem_map.mp member
  exact ⟨p, power_eq p⟩

end Multipliers

end GestureLexicon
