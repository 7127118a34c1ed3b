import GestureLexicon.Proofs.Bands
import GestureLexicon.Proofs.HaarPyramid

/-!
The pyramid and the packet transform side by side. Their first pass is the same, and each later one
does the same to the leading band, so they agree on the bands that the last pass has halved. A
detail band that the pyramid leaves as it is comes to be a block of its own, which the packet
transform goes on with as with a signal. Main statement: `Transform.packet_refilters`.
-/

namespace GestureLexicon
variable {α : Type}

theorem detailBand_eq_drop {xs : List α} {pass : ℕ}
    (twice : xs.length >>> pass = 2 * (xs.length >>> (pass + 1))) :
    detailBand xs (pass + 1) =
      (xs.drop (xs.length >>> (pass + 1))).take (xs.length >>> (pass + 1)) := by
  rw [detailBand, Nat.add_sub_cancel, twice, List.drop_take, two_mul, Nat.add_sub_cancel]

namespace Wavelet
variable (w : Wavelet α)

theorem bandLength_of_le {length levels : ℕ} (within : levels ≤ w.depth length) :
    w.bandLength length levels = length >>> levels := by
  rw [bandLength, toNat_levelCount, min_eq_right within]

theorem bandLength_succ_le (length levels : ℕ) :
    w.bandLength length (levels + 1) ≤ w.bandLength length levels := by
  rw [bandLength, bandLength, toNat_levelCount, toNat_levelCount, Nat.shiftRight_eq_div_pow,
    Nat.shiftRight_eq_div_pow]
  refine Nat.div_le_div_left (Nat.pow_le_pow_right two_pos ?_) (by positivity)
  exact min_le_min_left _ (Nat.le_succ levels)

theorem shiftRight_eq_two_mul {length pass : ℕ} (power : length.isPowerOfTwo)
    (within : pass + 1 ≤ w.depth length) : length >>> pass = 2 * (length >>> (pass + 1)) := by
  obtain ⟨m, rfl⟩ := power
  obtain ⟨left, rfl⟩ := Nat.exists_eq_add_of_le (within.trans (w.depth_le m))
  have halved (passes rest : ℕ) : 2 ^ (passes + rest) >>> passes = 2 ^ rest := by
    rw [Nat.shiftRight_eq_div_pow, pow_add, Nat.mul_div_cancel_left _ (by positivity)]
  rw [halved, Nat.add_assoc, halved, Nat.add_comm, pow_succ']

/-- A level does what its number of passes does as a level. -/
theorem levelCount_toNat (length : ℕ) {level : Option ℤ} (allowed : LevelAllowed level) :
    w.levelCount length level =
      w.levelCount length (some ((w.levelCount length level).toNat : ℤ)) := by
  have counted := w.toNat_levelCount length (w.levelCount length level).toNat
  rw [min_eq_right (w.levelCount_le length level)] at counted
  have least := w.levelCount_nonneg length allowed
  have leastAlso := w.levelCount_nonneg length (levelAllowed_some (w.levelCount length level).toNat)
  omega

theorem onBlocks_length {step : List α → Except TransformError (List α)} {xs : List α}
    (filled : 0 < xs.length) : onBlocks step xs xs.length = onLeading step xs xs.length := by
  rw [onBlocks_cons filled filled, List.drop_length, onBlocks_nil, onLeading, List.drop_length]
  rfl

end Wavelet

namespace Transform
variable [Zero α] [Add α] [Mul α] [Neg α] (w : Wavelet α)

theorem packet_one {xs : List α} (power : xs.length.isPowerOfTwo) :
    (packet w).forward xs (some (1 : ℕ)) = (pyramid w).forward xs (some (1 : ℕ)) := by
  have filled : 0 < xs.length := Nat.pos_of_isPowerOfTwo power
  rw [(filtersBands_packet w).forward, (filtersBands_pyramid w).forward, w.descend_eq _ _ power,
    w.descend_eq _ _ power, Wavelet.widths, w.toNat_levelCount]
  obtain zero | one : min (w.depth xs.length) 1 = 0 ∨ min (w.depth xs.length) 1 = 1 := by omega
  · rw [zero]
    rfl
  · rw [one]
    change Wavelet.onBlocks _ xs xs.length >>= pure = Wavelet.onLeading _ xs xs.length >>= pure
    rw [Wavelet.onBlocks_length filled]

/-- What both make of a line at a number of levels, with the same leading band before the last. -/
structure Agreeing (levels : ℕ) (xs ys zs : List α) : Prop where
  pyramid : (pyramid w).forward xs (some (levels : ℤ)) = .ok ys
  packet : (packet w).forward xs (some (levels : ℤ)) = .ok zs
  length : ys.length = xs.length
  length' : zs.length = xs.length
  leading : zs.take (w.bandLength xs.length (levels - 1)) =
    ys.take (w.bandLength xs.length (levels - 1))

theorem exists_agreeing {xs : List α} (power : xs.length.isPowerOfTwo) (levels : ℕ) :
    ∃ ys zs, Agreeing w (levels + 1) xs ys zs := by
  induction levels with
  | zero =>
    have keeps : Keeps xs.length ((pyramid w).forward · (some (1 : ℕ))) :=
      (pyramid w).keeps_forward power
    obtain ⟨ys, sent, kept, _⟩ := keeps xs rfl
    exact ⟨ys, ys, sent, (packet_one w power).trans sent, kept, kept, rfl⟩
  | succ levels ih =>
    obtain ⟨ys, zs, agree⟩ := ih
    obtain ⟨ys', pyramided, leading⟩ := (splitsAt_pyramid w power (levels + 1) 1).later agree.pyramid
    obtain ⟨zs', packeted, all⟩ := (splitsAt_packet w power (levels + 1) 1).later agree.packet
    refine ⟨ys', zs', pyramided, packeted, leading.length.trans agree.length,
      all.length.trans agree.length', ?_⟩
    -- One more level is a single pass over the leading band, and this is the same for both.
    obtain ⟨narrow, divides⟩ := w.bandLength_isPowerOfTwo power (levels + 1)
    have fits : w.bandLength xs.length (levels + 1) ≤ xs.length :=
      Nat.le_of_dvd (Nat.pos_of_isPowerOfTwo power) divides
    have same : zs.take (w.bandLength xs.length (levels + 1)) =
        ys.take (w.bandLength xs.length (levels + 1)) := by
      have inside := w.bandLength_succ_le xs.length levels
      rw [← min_eq_left inside, ← List.take_take, ← List.take_take]
      exact congrArg _ agree.leading
    have first := all.block 0 (by rw [Nat.zero_add, Nat.one_mul, agree.length']; exact fits)
    rw [Nat.zero_mul, List.drop_zero, List.drop_zero, same] at first
    have band : (ys.take (w.bandLength xs.length (levels + 1))).length.isPowerOfTwo := by
      rwa [List.length_take_of_le (agree.length.symm ▸ fits)]
    exact Except.ok.inj (first.symm.trans ((packet_one w band).trans leading.band))

/-- The packet transform goes on with each detail band of the pyramid as with a signal. -/
theorem refilters_band {xs ys zs : List α} (power : xs.length.isPowerOfTwo) {levels pass : ℕ}
    (least : 1 ≤ pass) (most : pass ≤ levels) (within : levels ≤ w.depth xs.length)
    (pyramided : (pyramid w).forward xs (some (levels : ℤ)) = .ok ys)
    (packeted : (packet w).forward xs (some (levels : ℤ)) = .ok zs) :
    (packet w).forward (detailBand ys pass) (some ((levels - pass : ℕ) : ℤ)) =
      .ok (detailBand zs pass) := by
  obtain ⟨pass, rfl⟩ := Nat.exists_eq_add_of_le' least
  obtain ⟨left, rfl⟩ := Nat.exists_eq_add_of_le most
  -- The levels are cut behind the pass that the band comes from.
  obtain ⟨early, early', agree⟩ := exists_agreeing w power pass
  obtain ⟨late, whole, leading⟩ := (splitsAt_pyramid w power (pass + 1) left).later agree.pyramid
  obtain rfl : late = ys := Except.ok.inj (whole.symm.trans pyramided)
  obtain ⟨late', whole, all⟩ := (splitsAt_packet w power (pass + 1) left).later agree.packet
  obtain rfl : late' = zs := Except.ok.inj (whole.symm.trans packeted)
  have twice : xs.length >>> pass = 2 * (xs.length >>> (pass + 1)) :=
    w.shiftRight_eq_two_mul power (by omega)
  have start := agree.leading
  rw [Nat.add_sub_cancel, w.bandLength_of_le (by omega)] at start
  rw [w.bandLength_of_le (by omega)] at leading all
  have untouched : detailBand late (pass + 1) = detailBand early (pass + 1) := by
    have size := leading.length.trans agree.length
    rw [detailBand_eq_drop (size ▸ twice), detailBand_eq_drop (agree.length ▸ twice), size,
      agree.length, leading.rest]
  have shared : detailBand early (pass + 1) = detailBand early' (pass + 1) := by
    rw [detailBand, detailBand, agree.length, agree.length', Nat.add_sub_cancel, start]
  have size := all.length.trans agree.length'
  have fits : (1 + 1) * (xs.length >>> (pass + 1)) ≤ early'.length := by
    rw [agree.length', one_add_one_eq_two, ← twice]
    exact Nat.shiftRight_le _ _
  have second := all.block 1 fits
  rw [Nat.one_mul] at second
  rw [untouched, shared, Nat.add_sub_cancel_left, detailBand_eq_drop (agree.length' ▸ twice),
    detailBand_eq_drop (size ▸ twice), size, agree.length']
  exact second

/-- The packet transform differs from the pyramid in what it does to the details. Both agree on the
bands that the last pass has made, and everywhere if there is one pass at most; where the pyramid
has the details of a pass, the packet transform has what it makes of these as of a signal, with the
passes that are left. -/
theorem packet_refilters (w : Wavelet α) (level : Option ℤ) (xs : List α)
    (power : xs.length.isPowerOfTwo) (allowed : LevelAllowed level) :
    let passes := (w.levelCount xs.length level).toNat
    ∃ ys zs, (pyramid w).forward xs level = .ok ys ∧ (packet w).forward xs level = .ok zs ∧
      ys.length = xs.length ∧ zs.length = xs.length ∧ (passes ≤ 1 → zs = ys) ∧
      (1 ≤ passes →
        zs.take (xs.length >>> (passes - 1)) = ys.take (xs.length >>> (passes - 1))) ∧
      ∀ k, 1 ≤ k → k ≤ passes →
        (packet w).forward (detailBand ys k) (some ((passes - k : ℕ) : ℤ)) =
          .ok (detailBand zs k) := by
  intro passes
  have within : passes ≤ w.depth xs.length := w.levelCount_le xs.length level
  have same := w.levelCount_toNat xs.length allowed
  have there : (pyramid w).forward xs level = (pyramid w).forward xs (some (passes : ℤ)) :=
    (filtersBands_pyramid w).step_congr same .forward
  have also : (packet w).forward xs level = (packet w).forward xs (some (passes : ℤ)) :=
    (filtersBands_packet w).step_congr same .forward
  rw [there, also]
  clear_value passes
  cases passes with
  | zero =>
    refine ⟨xs, xs, (filtersBands_pyramid w).step_zero power .forward,
      (filtersBands_packet w).step_zero power .forward, rfl, rfl, fun _ => rfl, ?_, ?_⟩
    · exact fun later => absurd later (by omega)
    · exact fun k least most => absurd (least.trans most) (by omega)
  | succ passes =>
    obtain ⟨ys, zs, agree⟩ := exists_agreeing w power passes
    have leading := agree.leading
    rw [w.bandLength_of_le (by omega)] at leading
    refine ⟨ys, zs, agree.pyramid, agree.packet, agree.length, agree.length', ?_,
      fun _ => leading, ?_⟩
    · intro few
      obtain rfl : passes = 0 := by omega
      rwa [Nat.zero_add, Nat.sub_self, Nat.shiftRight_zero, List.take_of_length_le agree.length.le,
        List.take_of_length_le agree.length'.le] at leading
    · intro k least most
      exact refilters_band w power least most within agree.pyramid agree.packet

/-- All three passes over eight entries, with the later half of the first filtered twice more. -/
theorem packet_refilters_eight :
    let w : Wavelet ℤ := ⟨none, [1, 1], le_rfl, rfl⟩
    let xs : List ℤ := [3, 1, 4, 1, 5, 9, 2, 6]
    xs.length.isPowerOfTwo ∧ LevelAllowed none ∧
      ∃ ys zs, (pyramid w).forward xs none = .ok ys ∧ (packet w).forward xs none = .ok zs ∧
        zs.take 2 = ys.take 2 ∧
          (packet w).forward (detailBand ys 1) (some 2) = .ok (detailBand zs 1) := by
  intro w xs
  have power : xs.length.isPowerOfTwo := ⟨3, rfl⟩
  have allowed : LevelAllowed none := levelAllowed_map none
  have three : (w.levelCount xs.length none).toNat = 3 := w.depth_two_pow rfl 3
  obtain ⟨ys, zs, there, also, _, _, _, leading, bands⟩ := packet_refilters w none xs power allowed
  rw [three] at leading bands
  rw [show xs.length >>> (3 - 1) = 2 by decide] at leading
  exact ⟨power, allowed, ys, zs, there, also, leading (by decide), bands 1 le_rfl (by decide)⟩

end Transform

end GestureLexicon
