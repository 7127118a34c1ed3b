import GestureLexicon.Proofs.KeyCentres
import GestureLexicon.Proofs.Linearity
import GestureLexicon.Proofs.Spelling

/-!
Keyboards that are scaled, mirrored or shifted. Every length on such a keyboard is scaled alike, so
a word has its samples at the same places of its path, and these are scaled and shifted as the keys
are. Transforms are linear, so the coefficients are scaled and a shift adds a multiple of those of a
constant signal. Main statement: `Extractor.moved_keys`.
-/

namespace GestureLexicon

def KeyLayout.mapCentres {κ : Type} (f : Point κ → Point κ) (l : KeyLayout κ) : KeyLayout κ :=
  ⟨⟨l.positions.entries.map fun entry => (entry.1, f entry.2), by
    simpa [Function.comp_def] using l.positions.distinct⟩, l.keyWidth, l.keyHeight⟩

def Point.moved (scale shiftX shiftY : ℝ) (p : Point ℝ) : Point ℝ :=
  ⟨scale * p.x + shiftX, scale * p.y + shiftY⟩

theorem KeyLayout.position?_mapCentres {κ : Type} (f : Point κ → Point κ) (l : KeyLayout κ)
    (key : String) : (l.mapCentres f).position? key = (l.position? key).map f :=
  lookup_map_values (fun _ => f) key l.positions.entries

namespace Path

variable {xs ys lengths : List ℝ} (scale shift : ℝ)

theorem steps_moved (xs : List ℝ) :
    steps (xs.map (scale * · + shift)) = (steps xs).map (scale * ·) := by
  fun_induction steps xs with
  | case1 a b rest ih =>
    simp only [List.map_cons] at ih ⊢
    rw [steps, ih, add_sub_add_right_eq_sub, mul_sub]
  | case2 xs short =>
    cases xs with
    | nil => rfl
    | cons a xs =>
      cases xs with
      | nil => rfl
      | cons b rest => exact absurd rfl (short a b rest)

theorem hypot_scaled (u v : ℝ) :
    (Scalar.hypot (scale * u) (scale * v) : ℝ) = |scale| * Scalar.hypot u v := by
  change Real.sqrt ((scale * u) ^ 2 + (scale * v) ^ 2) = |scale| * Real.sqrt (u ^ 2 + v ^ 2)
  rw [← Real.sqrt_sq_eq_abs, ← Real.sqrt_mul (sq_nonneg scale)]
  congr 1
  ring

theorem segmentLengths_moved (shiftX shiftY : ℝ) (measured : segmentLengths xs ys = .ok lengths) :
    segmentLengths (xs.map (scale * · + shiftX)) (ys.map (scale * · + shiftY)) =
      .ok (lengths.map (|scale| * ·)) := by
  obtain ⟨same, rfl⟩ := segmentLengths_eq_ok measured
  rw [segmentLengths, if_neg (by rw [List.length_map, List.length_map, same, not_not]),
    steps_moved, steps_moved, List.zipWith_map, List.map_zipWith]
  simp only [hypot_scaled]

end Path

theorem OnPath.moved (scale shift : ℝ) {values lengths : List ℝ} {d v : ℝ}
    (on : OnPath values lengths d v) :
    OnPath (values.map (scale * · + shift)) (lengths.map (|scale| * ·)) (|scale| * d)
      (scale * v + shift) := by
  induction on with
  | @here a b length share values lengths least most =>
    have distance : |scale| * (share * length) = share * (|scale| * length) := by ring
    have value : scale * (a + share * (b - a)) + shift = scale * a + shift +
        share * (scale * b + shift - (scale * a + shift)) := by ring
    rw [distance, value]
    exact .here least most
  | @later a b length distance value values lengths _ ih =>
    rw [mul_add]
    exact .later ih

theorem Resample.targets_scaled (factor total : ℝ) (count : ℕ) :
    targets (factor * total) count = (targets total count).map (factor * ·) := by
  unfold targets
  rw [List.map_map]
  apply List.map_congr_left
  intro i _
  change (i : ℝ) * (factor * total) / ((count - 1 : ℕ) : ℝ) =
    factor * (i * total / ((count - 1 : ℕ) : ℝ))
  ring

/-- The samples of a path that is scaled and shifted are scaled and shifted. -/
theorem resample_moved (scale shift : ℝ) {values lengths samples : List ℝ} {count : ℕ}
    (lasting : ∀ length ∈ lengths, 0 ≤ length)
    (gentle : OnPath.Gentle 1 (values.map (scale * · + shift)) (lengths.map (|scale| * ·)))
    (sent : resample values lengths count = .ok samples) :
    resample (values.map (scale * · + shift)) (lengths.map (|scale| * ·)) count =
      .ok (samples.map (scale * · + shift)) := by
  obtain ⟨matched, nonempty, several, on⟩ := resample_onPath lasting sent
  have lastingMoved : ∀ length ∈ lengths.map (|scale| * ·), 0 ≤ length := by
    rintro _ member
    obtain ⟨length, among, rfl⟩ := List.mem_map.mp member
    exact mul_nonneg (abs_nonneg scale) (lasting length among)
  have matchedMoved : (values.map (scale * · + shift)).length =
      (lengths.map (|scale| * ·)).length + 1 := by
    rw [List.length_map, List.length_map, matched]
  apply resample_of_onPath lastingMoved zero_le_one gentle matchedMoved
    (List.map_eq_nil_iff.not.mpr nonempty) several
  rw [List.sum_map_mul_left, List.map_id', Resample.targets_scaled, List.forall₂_map_left_iff,
    List.forall₂_map_right_iff]
  exact on.imp fun d v on => on.moved scale shift

namespace Extractor
variable {κ : Type}

def mapCentres (e : Extractor κ) (f : Point κ → Point κ) : Extractor κ :=
  e.onLayout (e.layout.mapCentres f)

theorem points_mapCentres {e : Extractor κ} {word : String} (f : Point κ → Point κ)
    {centres : List (Point κ)} (read : e.points word = .ok centres) :
    (e.mapCentres f).points word = .ok (centres.map f) := by
  rw [points_eq_ok] at read ⊢
  rw [List.forall₂_map_right_iff]
  refine read.imp fun letter centre found => ?_
  have moved : (e.mapCentres f).centre? letter = (e.centre? letter).map f :=
    KeyLayout.position?_mapCentres f e.layout _
  rw [moved, found]
  rfl

theorem corners_mapCentres {e : Extractor κ} {word : String} (f : Point κ → Point κ)
    {centres : List (Point κ)} (read : e.corners word = .ok centres) :
    (e.mapCentres f).corners word = .ok (centres.map f) := by
  rw [corners_eq_ok] at read ⊢
  obtain ⟨nonempty, read, several⟩ := read
  exact ⟨nonempty, points_mapCentres f read, by rwa [List.length_map]⟩

variable {e : Extractor ℝ} {word : String} (scale shiftX shiftY : ℝ)

theorem path_moved {p : WordPath ℝ} (read : e.path word = .ok p) :
    (e.mapCentres (Point.moved scale shiftX shiftY)).path word =
      .ok ⟨p.xs.map (scale * · + shiftX), p.ys.map (scale * · + shiftY),
        p.lengths.map (|scale| * ·)⟩ := by
  obtain ⟨centres, placed, located, measured⟩ := path_eq_ok read
  rw [Path.coordinates_self] at located
  obtain ⟨xs, ys⟩ := Prod.mk.inj (Except.ok.inj located)
  have measuredMoved := Path.segmentLengths_moved scale shiftX shiftY measured
  have movedX : (centres.map (Point.moved scale shiftX shiftY)).map Point.x =
      p.xs.map (scale * · + shiftX) := by
    rw [← xs, List.map_map, List.map_map]
    rfl
  have movedY : (centres.map (Point.moved scale shiftX shiftY)).map Point.y =
      p.ys.map (scale * · + shiftY) := by
    rw [← ys, List.map_map, List.map_map]
    rfl
  refine path_eq (corners_mapCentres _ placed) ?_ measuredMoved
  rw [Path.coordinates_self, movedX, movedY]

theorem resampledPath_moved {xs ys : List ℝ} (sampled : e.resampledPath word = .ok (xs, ys)) :
    (e.mapCentres (Point.moved scale shiftX shiftY)).resampledPath word =
      .ok (xs.map (scale * · + shiftX), ys.map (scale * · + shiftY)) := by
  obtain ⟨p, read, measured, sampledX, sampledY⟩ := resampledPath_eq_ok sampled
  obtain ⟨_, _, lasting⟩ := Path.gentle_segmentLengths measured
  -- A distance has one value on the moved path too, also where that has shrunk to a point.
  obtain ⟨gentleX, gentleY, _⟩ :=
    Path.gentle_segmentLengths (Path.segmentLengths_moved scale shiftX shiftY measured)
  exact resampledPath_eq (path_moved scale shiftX shiftY read)
    (resample_moved scale shiftX lasting gentleX sampledX)
    (resample_moved scale shiftY lasting gentleY sampledY)

/-- The coefficients of samples that are scaled and shifted are scaled, and the shift adds as often
those of a signal of ones. -/
theorem forward_moved (e : Extractor κ) (scale : ℝ) {xs : List ℝ}
    (size : xs.length = e.resampling.sampleCount) {ones : List ℝ}
    (sent : (e.features.buildTransform : Transform ℝ).forward
      (List.replicate e.resampling.sampleCount 1) (e.features.level.map Int.ofNat) = .ok ones) :
    ∃ x, (e.features.buildTransform : Transform ℝ).forward xs (e.features.level.map Int.ofNat) =
        .ok x ∧ x.length = e.resampling.sampleCount ∧
      ∀ shift, (e.features.buildTransform : Transform ℝ).forward (xs.map (scale * · + shift))
        (e.features.level.map Int.ofNat) =
          .ok (List.zipWith (fun old one => scale * old + shift * one) x ones) := by
  let transform : Transform ℝ := e.features.buildTransform
  have accepted : transform.Accepts e.resampling.sampleCount :=
    Nat.lt_of_lt_of_le two_pos e.resampling.bounds.1
  have linear := transform.actsLinearly .forward (levelAllowed_map e.features.level) accepted
  obtain ⟨x, flat, sentX, sentFlat, kept, _, combined⟩ := linear.combine size List.length_replicate
  obtain rfl : flat = ones := Except.ok.inj (sentFlat.symm.trans sent)
  refine ⟨x, sentX, kept, fun shift => ?_⟩
  have affine : xs.map (scale * · + shift) = List.zipWith (fun x one => scale * x + shift * one) xs
      (List.replicate e.resampling.sampleCount 1) := by
    rw [← size, ← List.map_const', List.zipWith_map_right, List.zipWith_self]
    simp only [mul_one]
  rw [affine]
  exact combined scale shift

/-- Keys that are scaled about the origin and then shifted, also by a negative number or to a point,
give any word that has a vector another one. Its samples are moved as the keys are, its coefficients
are scaled, and the shift along an axis adds as often the leading coefficients of a signal of ones.
The reserved zero is still there. -/
theorem moved_keys (e : Extractor ℝ) (word : String) (v : FeatureVector ℝ)
    (sent : e.extract word = .ok v) (scale shiftX shiftY : ℝ) :
    let moved := e.mapCentres (Point.moved scale shiftX shiftY)
    let transform : Transform ℝ := e.features.buildTransform
    let samples := e.resampling.sampleCount
    let count := e.features.coefficientCount
    ∃ xs ys ones : List ℝ, ∃ v' : FeatureVector ℝ,
      e.resampledPath word = .ok (xs, ys) ∧
      moved.resampledPath word = .ok (xs.map (scale * · + shiftX), ys.map (scale * · + shiftY)) ∧
      transform.forward (List.replicate samples 1) (e.features.level.map Int.ofNat) = .ok ones ∧
      ones.length = samples ∧ moved.extract word = .ok v' ∧
      v.values.length = 1 + 2 * count ∧ v'.values.length = 1 + 2 * count ∧
      v.values.head? = some 0 ∧ v'.values.head? = some 0 ∧
      v'.xCoefficients = List.zipWith (fun old one => scale * old + shiftX * one)
        v.xCoefficients (ones.take count) ∧
      v'.yCoefficients = List.zipWith (fun old one => scale * old + shiftY * one)
        v.yCoefficients (ones.take count) := by
  intro moved transform samples count
  obtain ⟨⟨xs, ys⟩, sampled, _⟩ := bind_eq_ok sent
  obtain ⟨sizeX, sizeY⟩ := length_resampledPath sampled
  have sampledMoved := resampledPath_moved scale shiftX shiftY sampled
  have flat : (List.replicate samples (1 : ℝ)).length = samples := List.length_replicate
  obtain ⟨ones, sentOnes, sizeOnes⟩ := e.forward_ok flat
  obtain ⟨x, sentX, keptX, movedX⟩ := e.forward_moved scale sizeX sentOnes
  obtain ⟨y, sentY, keptY, movedY⟩ := e.forward_moved scale sizeY sentOnes
  obtain rfl := Except.ok.inj (sent.symm.trans (extract_eq sampled sentX sentY keptX keptY))
  have fits : count ≤ samples := e.fits
  have taken {xs : List ℝ} (size : xs.length = samples) : (xs.take count).length = count :=
    xs.length_take_of_le (size ▸ fits)
  have mixed (shift : ℝ) {xs : List ℝ} (size : xs.length = samples) :
      (List.zipWith (fun old one => scale * old + shift * one) xs ones).length = samples := by
    rw [List.length_zipWith, size, sizeOnes, min_self]
  have sentMoved := extract_eq sampledMoved (movedX shiftX) (movedY shiftY) (mixed shiftX keptX)
    (mixed shiftY keptY)
  obtain ⟨length, partX, partY⟩ := FeatureVector.parts_mk (taken keptX) (taken keptY)
  obtain ⟨lengthMoved, movedPartX, movedPartY⟩ :=
    FeatureVector.parts_mk (taken (mixed shiftX keptX)) (taken (mixed shiftY keptY))
  refine ⟨xs, ys, ones, _, sampled, sampledMoved, sentOnes, sizeOnes, sentMoved, length,
    lengthMoved, rfl, rfl, ?_, ?_⟩
  · exact movedPartX.trans (by rw [List.take_zipWith, partX])
  · exact movedPartY.trans (by rw [List.take_zipWith, partY])

/-- Three keys that are mirrored, moved apart and shifted, with the default settings. -/
theorem moved_keys_mirrored :
    let e : Extractor ℝ := ⟨⟨⟨[("a", ⟨0, 0⟩), ("b", ⟨3, 4⟩), ("c", ⟨6, 0⟩)], by simp⟩, 1, 1⟩,
      .default, .default, by decide⟩
    let moved : Extractor ℝ :=
      ⟨⟨⟨[("a", ⟨5, 7⟩), ("b", ⟨-1, -1⟩), ("c", ⟨-7, 7⟩)], by simp⟩, 1, 1⟩, .default, .default,
        by decide⟩
    ∃ (v v' : FeatureVector ℝ) (ones : List ℝ), e.extract "abbc" = .ok v ∧
      moved.extract "abbc" = .ok v' ∧ v'.values.length = 17 ∧ v'.values.head? = some 0 ∧
        v'.xCoefficients =
          List.zipWith (fun old one => -2 * old + 5 * one) v.xCoefficients (ones.take 8) ∧
        v'.yCoefficients =
          List.zipWith (fun old one => -2 * old + 7 * one) v.yCoefficients (ones.take 8) := by
  intro e moved
  have mirrored : e.mapCentres (Point.moved (-2) 5 7) = moved := by
    norm_num [mapCentres, onLayout, KeyLayout.mapCentres, Point.moved, e, moved]
  have embedded : e.layout.Embedded ℝ := fun _ _ => ⟨rfl, rfl⟩
  have spelled : Word.letters "abbc" = ['a', 'b', 'b', 'c'] := rfl
  have mapped : ∀ letter ∈ Word.letters "abbc", (e.centre? letter).isSome := by
    rw [spelled]
    simp only [List.forall_mem_cons]
    exact ⟨rfl, rfl, rfl, rfl, List.forall_mem_nil _⟩
  have several : 2 ≤ (Word.letters "abbc").length := by
    rw [spelled]
    decide
  obtain ⟨v, sent⟩ := e.extract_ok "abbc" embedded several mapped
  obtain ⟨_, _, ones, v', _, _, _, _, sentMoved, _, length, _, first, x, y⟩ :=
    e.moved_keys "abbc" v sent (-2) 5 7
  rw [mirrored] at sentMoved
  exact ⟨v, v', ones, sent, sentMoved, length, first, x, y⟩

end Extractor

end GestureLexicon
