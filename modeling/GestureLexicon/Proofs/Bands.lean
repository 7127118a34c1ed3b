import GestureLexicon.Proofs.Axes

/-!
Levels that add up. The widths of a sum of levels are those of the first number of levels and then,
from the band that these leave, those of the second; all of the latter lie within the bands of that
width. So a transform that filters by levels goes to the bands of the first levels with all that the
second ones do, and the way back does so before it goes back through the first levels. Main
statement: `Transform.levels_add_up`.
-/

namespace GestureLexicon
variable {α : Type}

theorem levelAllowed_some (levels : ℕ) : LevelAllowed (some (levels : ℤ)) :=
  levelAllowed_map (some levels)

theorem Levels.narrowing_add (first second width : ℕ) :
    narrowing (first + second) width =
      narrowing first width ++ narrowing second (width >>> first) := by
  induction first generalizing width with
  | zero => rw [Nat.zero_add, Nat.shiftRight_zero, narrowing, List.nil_append]
  | succ first ih =>
    rw [Nat.add_right_comm, narrowing, narrowing, ih, Nat.shiftRight_succ_inside, List.cons_append]

theorem length_take_of_dvd {width : ℕ} {xs : List α} (filled : 0 < xs.length)
    (divides : width ∣ xs.length) : (xs.take width).length = width :=
  List.length_take_of_le (Nat.le_of_dvd filled divides)

theorem dvd_length_drop {width : ℕ} {xs : List α} (divides : width ∣ xs.length) :
    width ∣ (xs.drop width).length := by
  rw [List.length_drop]
  exact Nat.dvd_sub divides dvd_rfl

theorem getElem?_blocks {width : ℕ} (positive : 0 < width) (xs : List α) (i : ℕ) :
    (blocks width xs)[i]? =
      if i * width < xs.length then some ((xs.drop (i * width)).take width) else none := by
  induction i generalizing xs with
  | zero =>
    rw [blocks]
    by_cases empty : xs = []
    · simp [empty]
    · simp [empty, positive, List.length_pos_iff]
  | succ i ih =>
    rw [blocks]
    by_cases empty : xs = []
    · simp [empty]
    · rw [if_pos ⟨positive, empty⟩, List.getElem?_cons_succ, ih, List.length_drop,
        List.drop_drop, Nat.succ_mul, Nat.add_comm width]
      congr 1
      exact propext Nat.lt_sub_iff_add_lt

theorem blocks_append {width : ℕ} {xs ys : List α} (positive : 0 < width)
    (divides : width ∣ xs.length) :
    blocks width (xs ++ ys) = blocks width xs ++ blocks width ys := by
  fun_induction blocks width xs with
  | case1 xs cut ih =>
    have fits : width ≤ xs.length := Nat.le_of_dvd (List.length_pos_iff.mpr cut.2) divides
    rw [blocks, if_pos ⟨positive, List.append_ne_nil_of_left_ne_nil cut.2 ys⟩,
      List.take_append_of_le_length fits, List.drop_append_of_le_length fits,
      ih (dvd_length_drop divides), List.cons_append]
  | case2 xs stop =>
    obtain rfl : xs = [] := by_contra fun nonempty => stop ⟨positive, nonempty⟩
    rfl

namespace Wavelet
variable {step next same : List α → Except TransformError (List α)} {narrow width : ℕ}
  {xs ys : List α}

theorem onBlocks_nil : onBlocks step [] width = .ok [] := by
  rw [onBlocks, blocks, if_neg fun cut => cut.2 rfl]
  rfl

theorem onBlocks_cons (positive : 0 < width) (filled : 0 < xs.length) :
    onBlocks step xs width = do
      let first ← step (xs.take width)
      let rest ← onBlocks step (xs.drop width) width
      return first ++ rest := by
  rw [onBlocks, blocks, if_pos ⟨positive, List.length_pos_iff.mp filled⟩]
  simp only [onBlocks, List.mapM_cons, bind_assoc, pure_bind, List.flatten_cons]

theorem onBlocks_append (positive : 0 < width) (divides : width ∣ xs.length) :
    onBlocks step (xs ++ ys) width = do
      let first ← onBlocks step xs width
      let rest ← onBlocks step ys width
      return first ++ rest := by
  simp only [onBlocks, blocks_append positive divides, List.mapM_append, bind_assoc, pure_bind,
    List.flatten_append]

theorem eq_onBlocks (whole : List α → Except TransformError (List α)) (positive : 0 < width)
    (divides : width ∣ xs.length) (nil : whole [] = .ok [])
    (cons : ∀ xs, 0 < xs.length → width ∣ xs.length → whole xs = do
      let first ← step (xs.take width)
      let rest ← whole (xs.drop width)
      return first ++ rest) : whole xs = onBlocks step xs width := by
  fun_induction blocks width xs with
  | case1 xs cut ih =>
    have filled : 0 < xs.length := List.length_pos_iff.mpr cut.2
    rw [cons xs filled divides, onBlocks_cons positive filled, ih (dvd_length_drop divides)]
  | case2 xs stop =>
    obtain rfl : xs = [] := by_contra fun nonempty => stop ⟨positive, nonempty⟩
    rw [nil, onBlocks_nil]

abbrev Banding (α : Type) :=
  (List α → Except TransformError (List α)) → List α → ℕ → Except TransformError (List α)

/-- The bands of a width that divides a longer one lie within the bands of that, and two steps that
keep the width can be applied one after the other. -/
structure Bandwise (onBands : Banding α) : Prop where
  pass : ∀ xs width, 0 < width → onBands .ok xs width = .ok xs
  congr : ∀ {step same : List α → Except TransformError (List α)} {width : ℕ} {xs : List α},
    0 < xs.length → width ∣ xs.length → (∀ ys, ys.length = width → same ys = step ys) →
      onBands same xs width = onBands step xs width
  nested : ∀ (step : List α → Except TransformError (List α)) {narrow width : ℕ} {xs : List α},
    0 < xs.length → width ∣ xs.length → narrow ∣ width →
      onBands step xs narrow = onBands (onBands step · narrow) xs width
  bind : ∀ {step next : List α → Except TransformError (List α)} {width : ℕ} {xs : List α},
    0 < xs.length → width ∣ xs.length → Keeps width step →
      onBands (step · >>= next) xs width = onBands step xs width >>= (onBands next · width)
  keeps : ∀ {step : List α → Except TransformError (List α)} {width length : ℕ},
    0 < length → width ∣ length → Keeps width step → Keeps length (onBands step · width)

theorem bandwise_onLeading : Bandwise (@onLeading α) where
  pass xs width _ := congrArg Except.ok (List.take_append_drop width xs)
  congr filled divides equal := by
    rw [onLeading, equal _ (length_take_of_dvd filled divides), onLeading]
  nested step {narrow width xs} filled divides inner := by
    have within : narrow ≤ width := Nat.le_of_dvd (Nat.pos_of_dvd_of_pos divides filled) inner
    have size : (xs.take width).length = width := length_take_of_dvd filled divides
    have rest : xs.drop narrow = (xs.take width).drop narrow ++ xs.drop width := by
      rw [← List.drop_append_of_le_length (size.symm ▸ within), List.take_append_drop]
    simp only [onLeading, List.take_take, min_eq_left within, bind_assoc, pure_bind,
      List.append_assoc, rest]
  bind {step next width xs} filled divides keeps := by
    obtain ⟨band, sent, kept, _⟩ := keeps (xs.take width) (length_take_of_dvd filled divides)
    have went : onLeading step xs width = .ok (band ++ xs.drop width) := by
      rw [onLeading, sent]
      rfl
    rw [went, onLeading, sent]
    change next band >>= _ = onLeading next _ _
    rw [onLeading, List.take_left' kept, List.drop_left' kept]
  keeps filled divides keeps := (keeps.onLeading (Nat.le_of_dvd filled divides)).keeps

theorem bandwise_onBlocks : Bandwise (@onBlocks α) where
  pass xs width positive := by
    have whole : (blocks width xs).mapM (.ok · : List α → Except TransformError (List α)) =
        .ok (blocks width xs) := mapM_of_forall₂ (List.forall₂_same.mpr fun _ _ => rfl)
    rw [onBlocks, whole]
    exact congrArg Except.ok (flatten_blocks positive xs)
  congr {step same width xs} filled divides equal := by
    have positive : 0 < width := Nat.pos_of_dvd_of_pos divides filled
    refine eq_onBlocks (onBlocks same · width) positive divides onBlocks_nil ?_
    intro ys more whole
    rw [onBlocks_cons positive more, equal _ (length_take_of_dvd more whole)]
  nested step {narrow width xs} filled divides inner := by
    have positive : 0 < width := Nat.pos_of_dvd_of_pos divides filled
    have positiveInner : 0 < narrow := Nat.pos_of_dvd_of_pos inner positive
    refine eq_onBlocks (onBlocks step · narrow) positive divides onBlocks_nil ?_
    intro ys more whole
    have size : (ys.take width).length = width := length_take_of_dvd more whole
    rw [← onBlocks_append positiveInner (size.symm ▸ inner), List.take_append_drop]
  bind {step next width xs} filled divides keeps := by
    have positive : 0 < width := Nat.pos_of_dvd_of_pos divides filled
    -- Read from the right: it is what goes through all blocks twice that has to be taken apart.
    symm
    refine eq_onBlocks (onBlocks step · width >>= (onBlocks next · width)) positive divides ?_ ?_
    · rw [onBlocks_nil]
      exact onBlocks_nil
    intro ys more whole
    obtain ⟨band, sent, kept, _⟩ := keeps _ (length_take_of_dvd more whole)
    obtain ⟨rest, (sentRest : onBlocks step (ys.drop width) width = .ok rest), _⟩ :=
      keeps.onBlocks positive (dvd_length_drop whole) _ rfl
    have filledBand : 0 < (band ++ rest).length := by
      rw [List.length_append, kept]
      exact Nat.add_pos_left positive _
    rw [onBlocks_cons positive more, sent, sentRest]
    change onBlocks next (band ++ rest) width = _
    rw [onBlocks_cons positive filledBand, List.take_left' kept, List.drop_left' kept]
    rfl
  keeps filled divides keeps :=
    (keeps.onBlocks (Nat.pos_of_dvd_of_pos divides filled) divides).keeps

/-- Passes at widths that divide a width are, one after the other, passes on its bands. -/
theorem Bandwise.foldlM {onBands : Banding α} (bandwise : Bandwise onBands) {widths : List ℕ}
    (filled : 0 < xs.length) (divides : width ∣ xs.length)
    (each : ∀ narrow ∈ widths, narrow ∣ width ∧ Keeps narrow step) :
    widths.foldlM (onBands step) xs = onBands (widths.foldlM (onBands step) ·) xs width := by
  have positive : 0 < width := Nat.pos_of_dvd_of_pos divides filled
  induction widths generalizing xs with
  | nil => exact (bandwise.pass xs width positive).symm
  | cons narrow widths ih =>
    obtain ⟨⟨inner, keeps⟩, each⟩ := List.forall_mem_cons.mp each
    obtain ⟨ys, (sent : onBands step xs narrow = .ok ys), kept, _⟩ :=
      bandwise.keeps filled (inner.trans divides) keeps xs rfl
    -- Each band takes the first pass and goes on with the others before the next band is looked at.
    have band : Keeps width (onBands step · narrow) := bandwise.keeps positive inner keeps
    have both : onBands (fun zs => onBands step zs narrow >>= (widths.foldlM (onBands step) ·)) xs
        width = onBands (onBands step · narrow) xs width >>=
          (onBands (widths.foldlM (onBands step) ·) · width) := bandwise.bind filled divides band
    rw [← bandwise.nested step filled divides inner, sent] at both
    rw [List.foldlM_cons, sent]
    exact (ih (kept.symm ▸ filled) (kept.symm ▸ divides) each).trans both.symm

variable (w : Wavelet α)

theorem depth_shiftRight {passes length : ℕ} (within : passes ≤ w.depth length) :
    w.depth length = passes + w.depth (length >>> passes) := by
  induction passes generalizing length with
  | zero => rw [Nat.zero_add, Nat.shiftRight_zero]
  | succ passes ih =>
    have holds : w.waveLength ≤ length := by
      by_contra short
      rw [w.depth_of_lt (by omega)] at within
      omega
    rw [w.depth_of_le holds] at within ⊢
    rw [Nat.shiftRight_succ_inside, ih (by omega)]
    omega

theorem toNat_levelCount (length bound : ℕ) :
    (w.levelCount length (some bound)).toNat = min (w.depth length) bound := by
  simp only [levelCount, Int.toNat_natCast]
  omega

theorem widths_add (length first second : ℕ) :
    let width := length >>> (w.levelCount length (some first)).toNat
    w.widths length (some (first + second : ℕ)) =
      w.widths length (some first) ++ w.widths width (some second) := by
  intro width
  have within := w.levelCount_le length (some first)
  have deeper := w.depth_shiftRight within
  unfold widths
  rw [← Levels.narrowing_add]
  congr 1
  rw [toNat_levelCount] at deeper within
  simp only [toNat_levelCount, width]
  omega

/-- The length of the bands that so many levels leave. -/
def bandLength (length levels : ℕ) : ℕ :=
  length >>> (w.levelCount length (some levels)).toNat

theorem bandLength_isPowerOfTwo {length : ℕ} (power : length.isPowerOfTwo) (levels : ℕ) :
    (w.bandLength length levels).isPowerOfTwo ∧ w.bandLength length levels ∣ length := by
  obtain ⟨m, rfl⟩ := power
  have within : (w.levelCount (2 ^ m : ℕ) (some levels)).toNat ≤ m :=
    (w.levelCount_le _ _).trans (w.depth_le m)
  rw [bandLength, Nat.shiftRight_eq_div_pow, Nat.pow_div within two_pos]
  exact ⟨⟨_, rfl⟩, pow_dvd_pow 2 (Nat.sub_le _ _)⟩

section
variable {w} {onBands : Banding α} {stage : Stage} (bandwise : Bandwise onBands)
  (keeps : ∀ width : ℕ, width.isPowerOfTwo → Keeps width step)
include bandwise keeps

theorem Bandwise.keeps_widths {length : ℕ} {level : Option ℤ} (power : length.isPowerOfTwo) :
    ∀ width ∈ w.widths length level, width ∣ length ∧ Keeps width step ∧
      Keeps length (onBands step · width) := by
  intro width member
  obtain ⟨narrow, divides, _⟩ := w.mem_widths power member
  exact ⟨divides, keeps width narrow,
    bandwise.keeps (Nat.pos_of_isPowerOfTwo power) divides (keeps width narrow)⟩

/-- Levels after the first ones are levels of the bands that these leave. -/
theorem Bandwise.descend_add (power : xs.length.isPowerOfTwo) (first second : ℕ) :
    descend (onBands step) stage w xs (some (first + second : ℕ)) =
      descend (onBands step) stage w xs (some first) >>=
        (onBands (descend (onBands step) stage w · (some second)) ·
          (w.bandLength xs.length first)) := by
  obtain ⟨narrow, divides⟩ := w.bandLength_isPowerOfTwo power first
  have kept : Keeps xs.length (descend (onBands step) stage w · (some first)) :=
    w.keeps_descend power fun width member =>
      (bandwise.keeps_widths keeps power width member).2.2
  obtain ⟨ys, (sent : descend (onBands step) stage w xs (some first) = .ok ys), size, _⟩ :=
    kept xs rfl
  have filled : 0 < ys.length := size.symm ▸ Nat.pos_of_isPowerOfTwo power
  have divides : w.bandLength xs.length first ∣ ys.length := by rwa [size]
  have inner : onBands (descend (onBands step) stage w · (some second)) ys
      (w.bandLength xs.length first) =
        (w.widths (w.bandLength xs.length first) (some second)).foldlM (onBands step) ys := by
    rw [bandwise.foldlM filled divides fun width member =>
      (bandwise.keeps_widths keeps narrow width member).imp_right And.left]
    refine bandwise.congr filled divides fun band whole => ?_
    rw [w.descend_eq _ _ (whole.symm ▸ narrow), whole]
  rw [w.descend_eq _ _ power, w.widths_add, List.foldlM_append, ← w.descend_eq _ stage power, sent]
  exact inner.symm

theorem Bandwise.ascend_add (power : xs.length.isPowerOfTwo) (first second : ℕ) :
    ascend (onBands step) stage w xs (some (first + second : ℕ)) =
      onBands (ascend (onBands step) stage w · (some second)) xs (w.bandLength xs.length first) >>=
        (ascend (onBands step) stage w · (some first)) := by
  obtain ⟨narrow, divides⟩ := w.bandLength_isPowerOfTwo power first
  have filled : 0 < xs.length := Nat.pos_of_isPowerOfTwo power
  have inner : onBands (ascend (onBands step) stage w · (some second)) xs
      (w.bandLength xs.length first) =
        (w.widths (w.bandLength xs.length first)
          (some second)).reverse.foldlM (onBands step) xs := by
    rw [bandwise.foldlM filled divides fun width member =>
      (bandwise.keeps_widths keeps narrow width (List.mem_reverse.mp member)).imp_right And.left]
    refine bandwise.congr filled divides fun band whole => ?_
    rw [w.ascend_eq _ _ (whole.symm ▸ narrow) (levelAllowed_some second), whole]
  have kept : Keeps xs.length (onBands (ascend (onBands step) stage w · (some second)) ·
      (w.bandLength xs.length first)) :=
    bandwise.keeps filled divides <| w.keeps_ascend narrow (levelAllowed_some second)
      fun width member => (bandwise.keeps_widths keeps narrow width member).2.2
  obtain ⟨ys, (sent : onBands _ xs _ = .ok ys), size, _⟩ := kept xs rfl
  -- The widths come in the opposite order, so those of the second levels stand in front.
  rw [w.ascend_eq _ _ power (levelAllowed_some _), w.widths_add, List.reverse_append,
    List.foldlM_append]
  change (w.widths (w.bandLength xs.length first) (some second)).reverse.foldlM _ xs >>= _ = _
  rw [← inner, sent]
  change _ = ascend (onBands step) stage w ys (some first)
  rw [w.ascend_eq _ _ (size.symm ▸ power) (levelAllowed_some first), size]
  rfl

end

theorem widths_zero (length : ℕ) : w.widths length (some (0 : ℕ)) = [] := by
  have zero : (w.levelCount length (some (0 : ℕ))).toNat = 0 := by
    rw [toNat_levelCount, Nat.min_zero]
  exact congrArg (Levels.narrowing · length) zero

theorem levelCount_of_le {length : ℕ} {bound : ℤ} (enough : w.levelCount length none ≤ bound) :
    w.levelCount length (some bound) = w.levelCount length none := min_eq_left enough

end Wavelet

/-- Two lines of one length, the second of which opens with what a step makes of the first's leading
band and goes on as the first does. -/
structure LeadingSent (step : List α → Except TransformError (List α)) (width : ℕ)
    (xs ys : List α) : Prop where
  length : ys.length = xs.length
  band : step (xs.take width) = .ok (ys.take width)
  rest : ys.drop width = xs.drop width

/-- Two lines of one length, every block of the second of which is what a step makes of the same
block of the first. -/
structure BlocksSent (step : List α → Except TransformError (List α)) (width : ℕ)
    (xs ys : List α) : Prop where
  length : ys.length = xs.length
  block : ∀ i, (i + 1) * width ≤ xs.length →
    step ((xs.drop (i * width)).take width) = .ok ((ys.drop (i * width)).take width)

section
variable {step : List α → Except TransformError (List α)} {width : ℕ} {xs ys : List α}

theorem Keeps.sends (keeps : Keeps width step) :
    Sends width step fun xs ys => step xs = .ok ys := by
  intro xs size
  obtain ⟨ys, sent, kept, _⟩ := keeps xs size
  exact ⟨ys, sent, kept, sent⟩

theorem LeadingSent.of_ok (filled : 0 < xs.length) (divides : width ∣ xs.length)
    (keeps : Keeps width step) (sent : Wavelet.onLeading step xs width = .ok ys) :
    LeadingSent step width xs ys := by
  obtain ⟨zs, same, kept, band, rest⟩ :=
    (Keeps.sends keeps).onLeading (Nat.le_of_dvd filled divides) xs rfl
  obtain rfl := Except.ok.inj (sent.symm.trans same)
  exact ⟨kept, band, rest⟩

theorem BlocksSent.of_ok (filled : 0 < xs.length) (divides : width ∣ xs.length)
    (keeps : Keeps width step) (sent : Wavelet.onBlocks step xs width = .ok ys) :
    BlocksSent step width xs ys := by
  have positive : 0 < width := Nat.pos_of_dvd_of_pos divides filled
  obtain ⟨zs, same, kept, each⟩ := (Keeps.sends keeps).onBlocks positive divides xs rfl
  obtain rfl := Except.ok.inj (sent.symm.trans same)
  refine ⟨kept, fun i within => ?_⟩
  have below : i * width < xs.length := by
    rw [Nat.succ_mul] at within
    omega
  obtain ⟨there, block⟩ := List.getElem?_eq_some_iff.mp
    ((getElem?_blocks positive xs i).trans (if_pos below))
  obtain ⟨back, made⟩ := List.getElem?_eq_some_iff.mp
    ((getElem?_blocks positive ys i).trans (if_pos (kept.symm ▸ below)))
  rw [← block, ← made]
  exact each.get there back

end

namespace Transform
variable [Zero α] [Add α] [Mul α] [Neg α] {w : Wavelet α}

/-- A transform at a sum of levels. Forward it goes through the first ones and then sends the bands
of a width through the second ones; back it does so before it goes back through the first ones. -/
structure SplitsAt (t : Transform α)
    (sent : (List α → Except TransformError (List α)) → ℕ → List α → List α → Prop)
    (width first second : ℕ) (xs : List α) : Prop where
  forward : ∃ ys zs, t.forward xs (some first) = .ok ys ∧ ys.length = xs.length ∧
    sent (t.forward · (some second)) width ys zs ∧
      t.forward xs (some (first + second : ℕ)) = .ok zs
  reverse : ∃ ys zs, sent (t.reverse · (some second)) width xs ys ∧ ys.length = xs.length ∧
    t.reverse ys (some first) = .ok zs ∧ t.reverse xs (some (first + second : ℕ)) = .ok zs

theorem SplitsAt.later {t : Transform α} {width first second : ℕ} {xs ys : List α}
    {sent : (List α → Except TransformError (List α)) → ℕ → List α → List α → Prop}
    (split : t.SplitsAt sent width first second xs) (early : t.forward xs (some first) = .ok ys) :
    ∃ zs, t.forward xs (some (first + second : ℕ)) = .ok zs ∧
      sent (t.forward · (some second)) width ys zs := by
  obtain ⟨ys', zs, same, _, sent, whole⟩ := split.forward
  obtain rfl : ys' = ys := Except.ok.inj (same.symm.trans early)
  exact ⟨zs, whole, sent⟩

/-- A transform that filters the bands of one width after another, and back in the other order. -/
structure FiltersBands (t : Transform α) (w : Wavelet α) (stage : Stage)
    (onBands : Wavelet.Banding α) : Prop where
  accepts : ∀ {length : ℕ}, length.isPowerOfTwo → t.Accepts length
  forward : t.forward = Wavelet.descend (onBands (w.forward · none)) stage w
  reverse : t.reverse = Wavelet.ascend (onBands (w.reverse · none)) stage w

theorem filtersBands_pyramid (w : Wavelet α) :
    (pyramid w).FiltersBands w .pyramid Wavelet.onLeading := ⟨id, rfl, rfl⟩

theorem filtersBands_packet (w : Wavelet α) :
    (packet w).FiltersBands w .packet Wavelet.onBlocks := ⟨id, rfl, rfl⟩

namespace FiltersBands
variable {t : Transform α} {w : Wavelet α} {stage : Stage} {xs : List α}
  {onBands : Wavelet.Banding α} (filters : t.FiltersBands w stage onBands)
include filters

theorem splitsAt (power : xs.length.isPowerOfTwo) (bandwise : Wavelet.Bandwise onBands)
    {sent : (List α → Except TransformError (List α)) → ℕ → List α → List α → Prop}
    (sends : ∀ {step : List α → Except TransformError (List α)} {width : ℕ} {xs ys : List α},
      0 < xs.length → width ∣ xs.length → Keeps width step → onBands step xs width = .ok ys →
        sent step width xs ys) (first second : ℕ) :
    t.SplitsAt sent (w.bandLength xs.length first) first second xs := by
  obtain ⟨narrow, divides⟩ := w.bandLength_isPowerOfTwo power first
  have filled : 0 < xs.length := Nat.pos_of_isPowerOfTwo power
  constructor
  · have band : Keeps (w.bandLength xs.length first) (t.forward · (some second)) :=
      t.keeps_forward (filters.accepts narrow)
    have kept : Keeps xs.length (t.forward · (some first)) :=
      t.keeps_forward (filters.accepts power)
    obtain ⟨ys, (through : t.forward xs (some first) = .ok ys), size, _⟩ := kept xs rfl
    obtain ⟨zs, made, _⟩ := bandwise.keeps filled divides band ys size
    have whole : t.forward xs (some (first + second : ℕ)) = t.forward xs (some first) >>=
        (onBands (t.forward · (some second)) · (w.bandLength xs.length first)) := by
      rw [filters.forward]
      exact bandwise.descend_add (fun _ narrow => w.keeps_forward narrow) power first second
    rw [through] at whole
    exact ⟨ys, zs, through, size, sends (size.symm ▸ filled) (size.symm ▸ divides) band made,
      whole.trans made⟩
  · have band : Keeps (w.bandLength xs.length first) (t.reverse · (some second)) :=
      t.keeps_reverse (levelAllowed_some second) (filters.accepts narrow)
    have kept : Keeps xs.length (t.reverse · (some first)) :=
      t.keeps_reverse (levelAllowed_some first) (filters.accepts power)
    obtain ⟨ys, (made : onBands (t.reverse · _) xs _ = .ok ys), size, _⟩ :=
      bandwise.keeps filled divides band xs rfl
    obtain ⟨zs, through, _⟩ := kept ys size
    have whole : t.reverse xs (some (first + second : ℕ)) =
        onBands (t.reverse · (some second)) xs (w.bandLength xs.length first) >>=
          (t.reverse · (some first)) := by
      rw [filters.reverse]
      exact bandwise.ascend_add (fun _ narrow => w.keeps_reverse narrow) power first second
    rw [made] at whole
    exact ⟨ys, zs, sends filled divides band made, size, through, whole.trans through⟩

theorem step_zero (power : xs.length.isPowerOfTwo) (d : Direction) :
    t.line.step d (some (0 : ℕ)) xs = .ok xs := by
  cases d with
  | forward =>
    change t.forward xs (some (0 : ℕ)) = _
    rw [filters.forward, w.descend_eq _ _ power, w.widths_zero]
    rfl
  | reverse =>
    change t.reverse xs (some (0 : ℕ)) = _
    rw [filters.reverse, w.ascend_eq _ _ power (levelAllowed_some 0), w.widths_zero]
    rfl

theorem step_congr {level level' : Option ℤ}
    (same : w.levelCount xs.length level = w.levelCount xs.length level') (d : Direction) :
    t.line.step d level xs = t.line.step d level' xs := by
  cases d with
  | forward =>
    change t.forward xs level = t.forward xs level'
    rw [filters.forward, Wavelet.descend, Wavelet.descend, same]
  | reverse =>
    change t.reverse xs level = t.reverse xs level'
    rw [filters.reverse, Wavelet.ascend, Wavelet.ascend, same]

end FiltersBands

section
variable (w : Wavelet α) {xs : List α} (power : xs.length.isPowerOfTwo) (first second : ℕ)
include power

theorem splitsAt_pyramid :
    (pyramid w).SplitsAt LeadingSent (w.bandLength xs.length first) first second xs :=
  (filtersBands_pyramid w).splitsAt power Wavelet.bandwise_onLeading LeadingSent.of_ok first second

theorem splitsAt_packet :
    (packet w).SplitsAt BlocksSent (w.bandLength xs.length first) first second xs :=
  (filtersBands_packet w).splitsAt power Wavelet.bandwise_onBlocks BlocksSent.of_ok first second

end

/-- A transform that filters by levels goes to the bands that its first levels leave with all that
further levels do, and the way back comes from there. At level zero nothing is done, and levels that
a line has not are as good as no bound. -/
theorem levels_add_up (w : Wavelet α) (xs : List α) (power : xs.length.isPowerOfTwo) :
    (∀ first second : ℕ,
      let width := w.bandLength xs.length first
      0 < width ∧ width ∣ xs.length ∧ (pyramid w).SplitsAt LeadingSent width first second xs ∧
        (packet w).SplitsAt BlocksSent width first second xs) ∧
    ∀ t ∈ [pyramid w, packet w], ∀ d, t.line.step d (some 0) xs = .ok xs ∧
      ∀ level : ℤ, w.levelCount xs.length none ≤ level →
        t.line.step d (some level) xs = t.line.step d none xs := by
  refine ⟨fun first second => ?_, ?_⟩
  · obtain ⟨narrow, divides⟩ := w.bandLength_isPowerOfTwo power first
    exact ⟨Nat.pos_of_isPowerOfTwo narrow, divides, splitsAt_pyramid w power first second,
      splitsAt_packet w power first second⟩
  · simp only [List.forall_mem_cons, List.not_mem_nil, false_implies, implies_true, and_true]
    constructor
    · exact fun d => ⟨(filtersBands_pyramid w).step_zero power d, fun level enough =>
        (filtersBands_pyramid w).step_congr (w.levelCount_of_le enough) d⟩
    · exact fun d => ⟨(filtersBands_packet w).step_zero power d, fun level enough =>
        (filtersBands_packet w).step_congr (w.levelCount_of_le enough) d⟩

/-- The last two of the three levels of a line of eight entries, at the bands of four that the first
one leaves; three levels are all that it has. -/
theorem levels_add_up_eight :
    let w : Wavelet ℤ := ⟨none, [1, 1], le_rfl, rfl⟩
    let xs : List ℤ := [3, 1, 4, 1, 5, 9, 2, 6]
    xs.length.isPowerOfTwo ∧ (pyramid w).SplitsAt LeadingSent 4 1 2 xs ∧
      (packet w).SplitsAt BlocksSent 4 1 2 xs ∧ (packet w).forward xs (some 0) = .ok xs ∧
      (packet w).reverse xs (some 3) = (packet w).reverse xs none := by
  intro w xs
  have power : xs.length.isPowerOfTwo := ⟨3, rfl⟩
  have deep : w.depth 8 = 3 := w.depth_two_pow rfl 3
  have four : w.bandLength xs.length 1 = 4 := by
    rw [Wavelet.bandLength, w.toNat_levelCount, show xs.length = 8 from rfl, deep]
    rfl
  obtain ⟨split, bounds⟩ := levels_add_up w xs power
  obtain ⟨_, _, leading, all⟩ := split 1 2
  obtain ⟨_, full⟩ := bounds (packet w) (by simp) .reverse
  rw [four] at leading all
  refine ⟨power, leading, all, (bounds (packet w) (by simp) .forward).1, full 3 ?_⟩
  change ((w.depth 8 : ℕ) : ℤ) ≤ 3
  rw [deep]
  rfl

end Transform

end GestureLexicon
