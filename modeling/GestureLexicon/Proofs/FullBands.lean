import GestureLexicon.Proofs.Bands

/-!
The bands that are filtered. A transform filters as often as a length can be halved and still holds
the wavelet, or as its level allows, at the widths that this gives, and back at the same widths in
the opposite order. Each of them is a power of two that divides the length, so every band is a full
one, long enough for the filter, and none is left out, passed on as it is or refused. Main statement:
`Transform.filters_full_bands`.
-/

namespace GestureLexicon
variable {α : Type}

theorem Levels.narrowing_eq_map (count width : ℕ) :
    narrowing count width = (List.range count).map (width >>> ·) := by
  induction count generalizing width with
  | zero => rfl
  | succ count ih =>
    rw [narrowing, ih, List.range_succ_eq_map, List.map_cons, List.map_map, Nat.shiftRight_zero]
    refine congrArg (width :: ·) (List.map_congr_left fun k _ => ?_)
    exact (Nat.shiftRight_succ_inside width k).symm

/-- The widths from one on that doubling meets before it passes the full length. -/
inductive Levels.Doubling (full : ℕ) : ℕ → List ℕ → Prop
  | past {width : ℕ} (past : full < width) : Doubling full width []
  | fits {width : ℕ} {widths : List ℕ} (fits : width ≤ full)
      (rest : Doubling full (2 * width) widths) : Doubling full width (width :: widths)

theorem Levels.doubling_widening {width full : ℕ} (positive : 0 < width) :
    Doubling full width (widening width full) := by
  fun_induction widening width full with
  | case1 width more ih => exact .fits more.2 (ih (by omega))
  | case2 width stop => exact .past (not_le.mp fun fits => stop ⟨positive, fits⟩)

theorem length_of_mem_blocks {width : ℕ} {xs band : List α} (divides : width ∣ xs.length)
    (member : band ∈ blocks width xs) : band.length = width := by
  fun_induction blocks width xs with
  | case1 xs cut ih =>
    have filled : 0 < xs.length := List.length_pos_iff.mpr cut.2
    rcases List.mem_cons.mp member with rfl | later
    · exact length_take_of_dvd filled divides
    · exact ih (dvd_length_drop divides) later
  | case2 xs stop => exact absurd member List.not_mem_nil

/-- A line cut into bands of one width and what stands behind them. -/
abbrev Cut (α : Type) := ℕ → List α → List (List α) × List α

def Cut.leading : Cut α := fun width xs => ([xs.take width], xs.drop width)

def Cut.all : Cut α := fun width xs => (blocks width xs, [])

/-- A line in front of a pass and the one behind it. Every band of the first has the width in full,
is accepted by the step and replaced with what the filter makes of it; the rest stays as it is. -/
structure FullPass (cut : Cut α) (step : List α → Option ℤ → Except TransformError (List α))
    (filter : List α → List α) (width : ℕ) (xs ys : List α) : Prop where
  whole : xs = (cut width xs).1.flatten ++ (cut width xs).2
  full : ∀ band ∈ (cut width xs).1, band.length = width
  accepted : ∀ band ∈ (cut width xs).1, step band none = .ok (filter band)
  made : ys = ((cut width xs).1.map filter).flatten ++ (cut width xs).2

section
variable {step : List α → Option ℤ → Except TransformError (List α)} {filter : List α → List α}
  {width length : ℕ} (filters : Sends width (step · none) fun band made => made = filter band)
include filters

theorem Sends.accepts {band : List α} (full : band.length = width) :
    step band none = .ok (filter band) := by
  obtain ⟨made, sent, _, rfl⟩ := filters band full
  exact sent

theorem Sends.fullPass_leading (fits : width ≤ length) :
    Sends length (Wavelet.onLeading (step · none) · width)
      (FullPass Cut.leading step filter width) := by
  refine (filters.onLeading fits).mono fun xs ys size _ ⟨band, rest⟩ => ?_
  have full : (xs.take width).length = width := List.length_take_of_le (size.symm ▸ fits)
  constructor
  case whole => simp [Cut.leading]
  case full => simpa [Cut.leading] using size.symm ▸ fits
  case accepted =>
    intro taken member
    obtain rfl := List.mem_singleton.mp member
    exact filters.accepts full
  case made =>
    rw [← List.take_append_drop width ys, band, rest]
    simp [Cut.leading]

theorem Sends.fullPass_all (positive : 0 < width) (divides : width ∣ length) :
    Sends length (Wavelet.onBlocks (step · none) · width) (FullPass Cut.all step filter width) := by
  refine (filters.onBlocks positive divides).mono fun xs ys size _ each => ?_
  have full (band : List α) (member : band ∈ blocks width xs) : band.length = width :=
    length_of_mem_blocks (size.symm ▸ divides) member
  have made : (blocks width xs).map filter = blocks width ys := by
    rw [← List.forall₂_eq_eq_eq, List.forall₂_map_left_iff]
    exact each.imp fun _ _ made => made.symm
  constructor
  case whole => rw [Cut.all, flatten_blocks positive, List.append_nil]
  case full => exact full
  case accepted => exact fun band member => filters.accepts (full band member)
  case made => rw [Cut.all, made, flatten_blocks positive, List.append_nil]

end

namespace Wavelet
variable (w : Wavelet α)

theorem lt_depth_iff (k length : ℕ) : k < w.depth length ↔ w.waveLength ≤ length >>> k := by
  induction k generalizing length with
  | zero =>
    rw [Nat.shiftRight_zero]
    constructor
    · intro left
      by_contra short
      rw [w.depth_of_lt (not_le.mp short)] at left
      exact absurd left (lt_irrefl 0)
    · intro holds
      rw [w.depth_of_le holds]
      exact Nat.succ_pos _
  | succ k ih =>
    rw [Nat.shiftRight_succ_inside, ← ih]
    by_cases holds : w.waveLength ≤ length
    · rw [w.depth_of_le holds, Nat.succ_lt_succ_iff]
    · have short := not_le.mp holds
      rw [w.depth_of_lt short, w.depth_of_lt ((Nat.div_le_self length 2).trans_lt short)]
      exact iff_of_false (Nat.not_lt_zero _) (Nat.not_lt_zero _)

theorem setOf_holds (length : ℕ) :
    {k | w.waveLength ≤ length >>> k} = Set.Iio (w.depth length) :=
  Set.ext fun k => (w.lt_depth_iff k length).symm

theorem widths_eq_map (length : ℕ) (level : Option ℤ) : w.widths length level =
    (List.range (w.levelCount length level).toNat).map (length >>> ·) :=
  Levels.narrowing_eq_map _ _

theorem narrowest_pos {length : ℕ} (power : length.isPowerOfTwo) (level : Option ℤ) :
    0 < length >>> (w.levelCount length level - 1).toNat := by
  have within := w.levelCount_le length level
  obtain ⟨size, rfl⟩ := power
  have shallow := w.depth_le size
  rw [Nat.shiftRight_eq_div_pow, Nat.pow_div (by omega) two_pos]
  positivity

variable [Zero α] [Add α] [Mul α] [Neg α] {width : ℕ}

section
variable (power : width.isPowerOfTwo) (holds : w.waveLength ≤ width)
include power holds

theorem sends_analyse : Sends width (w.forward · none) fun band made => made = w.analyse band := by
  have filtered : ¬w.Passes width none := by simpa [Passes] using holds
  refine w.sends_guarded power (absurd · filtered) fun _ _ band size => ⟨?_, rfl⟩
  rw [w.length_analyse (size ▸ w.even_of_holds power holds), size]

theorem sends_synthesise :
    Sends width (w.reverse · none) fun band made => made = w.synthesise band := by
  have filtered : ¬w.Passes width none := by simpa [Passes] using holds
  refine w.sends_guarded power (absurd · filtered) fun _ _ band size => ⟨?_, rfl⟩
  rw [w.length_synthesise, size]

end

end Wavelet

namespace Transform
variable [Zero α] [Add α] [Mul α] [Neg α] {length : ℕ} {level : Option ℤ}

/-- A transform that filters full bands at the widths, the widest first, and does so backwards from
the narrowest on. -/
structure FiltersFully (t : Transform α) (w : Wavelet α) (cut : Cut α) (length : ℕ)
    (level : Option ℤ) (widths : List ℕ) : Prop where
  forward : Sends length (t.forward · level) (Along (FullPass cut w.forward w.analyse) widths)
  reverse : Sends length (t.reverse · level)
    (Along (FullPass cut w.reverse w.synthesise) widths.reverse)

theorem FiltersBands.filtersFully {t : Transform α} {w : Wavelet α} {stage : Stage}
    {onBands : Wavelet.Banding α} {cut : Cut α} (filters : t.FiltersBands w stage onBands)
    (power : length.isPowerOfTwo) (allowed : LevelAllowed level)
    (passes : ∀ {step : List α → Option ℤ → Except TransformError (List α)}
      {filter : List α → List α} {width : ℕ}, 0 < width → width ∣ length →
        (Sends width (step · none) fun band made => made = filter band) →
          Sends length (onBands (step · none) · width) (FullPass cut step filter width)) :
    t.FiltersFully w cut length level (w.widths length level) := by
  have each : ∀ width ∈ w.widths length level,
      Sends length (onBands (w.forward · none) · width)
          (FullPass cut w.forward w.analyse width) ∧
        Sends length (onBands (w.reverse · none) · width)
          (FullPass cut w.reverse w.synthesise width) := by
    intro width member
    obtain ⟨narrow, divides, holds⟩ := w.mem_widths power member
    have positive : 0 < width := Nat.pos_of_isPowerOfTwo narrow
    exact ⟨passes positive divides (w.sends_analyse narrow holds),
      passes positive divides (w.sends_synthesise narrow holds)⟩
  constructor
  · refine (Sends.foldlM fun width member => (each width member).1).congr fun xs size => ?_
    rw [filters.forward, w.descend_eq _ _ (size ▸ power), size]
  · have backwards : ∀ width ∈ (w.widths length level).reverse,
        Sends length (onBands (w.reverse · none) · width)
          (FullPass cut w.reverse w.synthesise width) :=
      fun width member => (each width (List.mem_reverse.mp member)).2
    refine (Sends.foldlM backwards).congr fun xs size => ?_
    rw [filters.reverse, w.ascend_eq _ _ (size ▸ power) allowed, size]

/-- The widths of a power of two at a level are its halves, as many as hold the wavelet or as the
level allows, and doubling the last of them comes to an end and meets them again. All of them are
powers of two that divide the length and hold the wavelet, and both transforms filter full bands at
each of them: the leading band of a line or all that it consists of. -/
theorem filters_full_bands (w : Wavelet α) (power : length.isPowerOfTwo)
    (allowed : LevelAllowed level) :
    let halvings := {k | w.waveLength ≤ length >>> k}
    let passes := w.levelCount length level
    let widths := (List.range passes.toNat).map (length >>> ·)
    halvings.Finite ∧
      passes = level.elim (halvings.ncard : ℤ) (min halvings.ncard ·) ∧
      (∀ width ∈ widths, width.isPowerOfTwo ∧ width ∣ length ∧ w.waveLength ≤ width) ∧
      (0 < passes → Levels.Doubling length (length >>> (passes - 1).toNat) widths.reverse) ∧
      (pyramid w).FiltersFully w Cut.leading length level widths ∧
      (packet w).FiltersFully w Cut.all length level widths := by
  intro halvings passes widths
  have halved : halvings = Set.Iio (w.depth length) := w.setOf_holds length
  have count : halvings.ncard = w.depth length := by
    rw [halved, ← Finset.coe_Iio, Set.ncard_coe_finset, Nat.card_Iio]
  have listed : widths = w.widths length level := (w.widths_eq_map length level).symm
  have member (width : ℕ) (member : width ∈ widths) := w.mem_widths power (listed ▸ member)
  have filled : 0 < length := Nat.pos_of_isPowerOfTwo power
  refine ⟨halved ▸ Set.finite_Iio _, ?_, member, fun left => ?_, ?_, ?_⟩
  · rw [count]
    cases level <;> rfl
  · rw [listed, ← w.widening_narrowest power left]
    exact Levels.doubling_widening (w.narrowest_pos power level)
  · rw [listed]
    exact (filtersBands_pyramid w).filtersFully power allowed fun _ divides filters =>
      filters.fullPass_leading (Nat.le_of_dvd filled divides)
  · rw [listed]
    exact (filtersBands_packet w).filtersFully power allowed fun positive divides filters =>
      filters.fullPass_all positive divides

/-- Six coefficients fit twice into a line of sixteen entries, fewer times than the level allows. -/
theorem filters_full_bands_six :
    let w : Wavelet ℤ := ⟨none, [1, 1, 1, 1, 1, 1], by decide, rfl⟩
    Nat.isPowerOfTwo 16 ∧ LevelAllowed (some 5) ∧ w.levelCount (16 : ℕ) (some 5) = 2 ∧
      Levels.Doubling 16 8 [8, 16] ∧
      (pyramid w).FiltersFully w Cut.leading 16 (some 5) [16, 8] ∧
      (packet w).FiltersFully w Cut.all 16 (some 5) [16, 8] := by
  intro w
  have power : Nat.isPowerOfTwo 16 := ⟨4, rfl⟩
  have allowed : LevelAllowed (some 5) := levelAllowed_some 5
  have long : w.waveLength = 6 := rfl
  have deep : w.depth 16 = 2 := by
    rw [w.depth_of_le (by omega), w.depth_of_le (by omega), w.depth_of_lt (by omega)]
  have twice : w.levelCount (16 : ℕ) (some 5) = 2 := by
    rw [Wavelet.levelCount, Int.toNat_natCast, deep]
    rfl
  obtain ⟨_, _, _, back, leading, all⟩ := filters_full_bands w power allowed
  rw [twice] at back leading all
  exact ⟨power, allowed, twice, back (by decide), leading, all⟩

end Transform

end GestureLexicon
