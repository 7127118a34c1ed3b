import GestureLexicon.Proofs.Extraction
import GestureLexicon.Proofs.HaarPyramid
import GestureLexicon.Proofs.Passing
import GestureLexicon.Proofs.Resampling
import GestureLexicon.Proofs.Steps

/-!
Words spelled backwards. The path of the reversed word leads through the same points from the last
to the first, over segments of the same lengths, and so do its samples. The Haar pyramid then has
mirrored coefficients. Main statement: `Extractor.reversed_word`.
-/

namespace GestureLexicon
variable {κ β γ : Type}

def Word.reversed (word : String) : String :=
  .ofList word.toList.reverse

theorem Word.letters_reversed (word : String) :
    letters (reversed word) = (letters word).reverse := by
  rw [letters, letters, reversed, String.toList_ofList, List.filter_reverse, List.map_reverse]

namespace Path

theorem steps_reverse (xs : List ℝ) : steps xs.reverse = (steps xs).reverse.map (- ·) := by
  apply List.ext_getElem
  · simp [length_steps]
  · intro i below within
    rw [length_steps, List.length_reverse] at below
    rw [getElem_steps _ (by rw [List.length_reverse]; omega), List.getElem_map,
      List.getElem_reverse, List.getElem_reverse, List.getElem_reverse,
      getElem_steps _ (by rw [length_steps]; omega), neg_sub]
    congr 2 <;> rw [length_steps] <;> omega

theorem coordinates_self (points : List (Point ℝ)) :
    coordinates points = .ok (points.map Point.x, points.map Point.y) := by
  rw [coordinates, embedAll_self, embedAll_self]
  rfl

variable {xs ys lengths : List ℝ}

theorem coordinates_reverse [Embeds κ ℝ] {points : List (Point κ)}
    (read : coordinates points = .ok (xs, ys)) :
    coordinates points.reverse = .ok (xs.reverse, ys.reverse) := by
  obtain ⟨x, readX, read⟩ := bind_eq_ok read
  obtain ⟨y, readY, made⟩ := bind_eq_ok read
  obtain ⟨rfl, rfl⟩ := Prod.mk.inj (Except.ok.inj made)
  have backX : embedAll (points.reverse.map Point.x) = .ok x.reverse := by
    rw [List.map_reverse]
    exact mapM_reverse (fun _ _ => id) (mapError_eq_ok readX)
  have backY : embedAll (points.reverse.map Point.y) = .ok y.reverse := by
    rw [List.map_reverse]
    exact mapM_reverse (fun _ _ => id) (mapError_eq_ok readY)
  rw [coordinates, backX, backY]
  rfl

theorem segmentLengths_reverse (measured : segmentLengths xs ys = .ok lengths) :
    segmentLengths xs.reverse ys.reverse = .ok lengths.reverse := by
  obtain ⟨same, rfl⟩ := segmentLengths_eq_ok measured
  have even (dx dy : ℝ) : Scalar.hypot (-dx) (-dy) = Scalar.hypot dx dy := by
    change Real.sqrt ((-dx) ^ 2 + (-dy) ^ 2) = Real.sqrt (dx ^ 2 + dy ^ 2)
    rw [neg_sq, neg_sq]
  have sizes : (steps xs).length = (steps ys).length := by rw [length_steps, length_steps, same]
  rw [segmentLengths, if_neg (by rw [List.length_reverse, List.length_reverse, same, not_not])]
  congr 1
  rw [steps_reverse, steps_reverse, List.zipWith_map, List.reverse_zipWith sizes]
  simp only [even]

theorem hypot_bounds {us vs : List ℝ} (same : us.length = vs.length) :
    List.Forall₂ (|·| ≤ 1 * ·) us (List.zipWith Scalar.hypot us vs) ∧
      List.Forall₂ (|·| ≤ 1 * ·) vs (List.zipWith Scalar.hypot us vs) ∧
        ∀ length ∈ List.zipWith Scalar.hypot us vs, 0 ≤ length := by
  induction us generalizing vs with
  | nil =>
    obtain rfl : vs = [] := List.length_eq_zero_iff.mp same.symm
    exact ⟨.nil, .nil, by simp⟩
  | cons u us ih =>
    obtain ⟨v, vs, rfl⟩ := List.exists_cons_of_length_eq_add_one same.symm
    obtain ⟨first, second, lasting⟩ := ih (Nat.succ.inj same)
    have length : (Scalar.hypot u v : ℝ) = Real.sqrt (u ^ 2 + v ^ 2) := rfl
    rw [List.zipWith_cons_cons, length]
    refine ⟨.cons ?_ first, .cons ?_ second, List.forall_mem_cons.mpr ⟨Real.sqrt_nonneg _, lasting⟩⟩
    · rw [one_mul]
      exact Real.abs_le_sqrt (le_add_of_nonneg_right (sq_nonneg v))
    · rw [one_mul]
      exact Real.abs_le_sqrt (le_add_of_nonneg_left (sq_nonneg u))

/-- No coordinate changes by more than the length of the segment. -/
theorem gentle_segmentLengths (measured : segmentLengths xs ys = .ok lengths) :
    OnPath.Gentle 1 xs lengths ∧ OnPath.Gentle 1 ys lengths ∧ ∀ length ∈ lengths, 0 ≤ length := by
  obtain ⟨same, rfl⟩ := segmentLengths_eq_ok measured
  exact hypot_bounds (by rw [length_steps, length_steps, same])

end Path

namespace Extractor
variable {e : Extractor κ} {word : String}

theorem points_reversed {centres : List (Point κ)} (read : e.points word = .ok centres) :
    e.points (Word.reversed word) = .ok centres.reverse := by
  rw [points_eq_ok] at read ⊢
  rwa [Word.letters_reversed, List.forall₂_reverse_iff]

theorem corners_reversed {centres : List (Point κ)} (read : e.corners word = .ok centres) :
    e.corners (Word.reversed word) = .ok centres.reverse := by
  rw [corners_eq_ok] at read ⊢
  obtain ⟨nonempty, read, several⟩ := read
  refine ⟨?_, points_reversed read, by rwa [List.length_reverse]⟩
  rwa [Word.letters_reversed, Ne, List.reverse_eq_nil_iff]

variable [Embeds κ ℝ]

theorem path_reversed {p : WordPath ℝ} (read : e.path word = .ok p) :
    e.path (Word.reversed word) = .ok ⟨p.xs.reverse, p.ys.reverse, p.lengths.reverse⟩ := by
  obtain ⟨centres, placed, located, measured⟩ := path_eq_ok read
  exact path_eq (corners_reversed placed) (Path.coordinates_reverse located)
    (Path.segmentLengths_reverse measured)

theorem resampledPath_reversed {xs ys : List ℝ} (sampled : e.resampledPath word = .ok (xs, ys)) :
    e.resampledPath (Word.reversed word) = .ok (xs.reverse, ys.reverse) := by
  obtain ⟨p, read, measured, sampledX, sampledY⟩ := resampledPath_eq_ok sampled
  obtain ⟨_, _, lasting⟩ := Path.gentle_segmentLengths measured
  obtain ⟨gentleX, gentleY, _⟩ :=
    Path.gentle_segmentLengths (Path.segmentLengths_reverse measured)
  exact resampledPath_eq (path_reversed read) (resample_reverse lasting gentleX sampledX)
    (resample_reverse lasting gentleY sampledY)

theorem extract_eq {xs ys x y : List ℝ} (sampled : e.resampledPath word = .ok (xs, ys))
    (sentX : (e.features.buildTransform : Transform ℝ).forward xs (e.features.level.map Int.ofNat) =
      .ok x)
    (sentY : (e.features.buildTransform : Transform ℝ).forward ys (e.features.level.map Int.ofNat) =
      .ok y)
    (sizeX : x.length = e.resampling.sampleCount) (sizeY : y.length = e.resampling.sampleCount) :
    e.extract word = .ok ⟨0 :: (x.take e.features.coefficientCount ++
      y.take e.features.coefficientCount)⟩ := by
  have fits := e.fits
  rw [extract, sampled]
  exact e.vector_eq sentX sentY (by omega) (by omega)

/-- The samples of the reversed word are those of the word from the last to the first. On a number
of samples that is a power of two, the Haar pyramid turns this into mirrored coefficients. If all
passes are made, the first coefficient of an axis is the same and the second one opposite, which
are the slots 1 and 2 of the vectors if these keep two coefficients of an axis. -/
theorem reversed_word (e : Extractor κ) (word : String) (xs ys : List ℝ)
    (sampled : e.resampledPath word = .ok (xs, ys)) :
    let back := Word.reversed word
    let count := e.resampling.sampleCount
    let level := e.features.level.map Int.ofNat
    e.resampledPath back = .ok (xs.reverse, ys.reverse) ∧ xs.length = count ∧ ys.length = count ∧
      (count.isPowerOfTwo → ∀ (t : Transform ℝ) (level : Option Int), t.IsHaarPyramid →
        t.Mirrors xs level ∧ t.Mirrors ys level) ∧
      (count.isPowerOfTwo → e.features.wavelet = .haar → e.features.transform = .pyramid →
        ∃ v v' : FeatureVector ℝ, e.extract word = .ok v ∧ e.extract back = .ok v' ∧
          (((Wavelet.haar : Wavelet ℝ).levelCount count level).toNat =
              (Wavelet.haar : Wavelet ℝ).depth count →
            v'.values[1]? = v.values[1]? ∧ (2 ≤ e.features.coefficientCount →
              v'.values[2]? = v.values[2]?.map fun value : ℝ => -value))) := by
  intro back count level
  have sampledBack := resampledPath_reversed sampled
  obtain ⟨sizeX, sizeY⟩ : xs.length = count ∧ ys.length = count := length_resampledPath sampled
  have several : 2 ≤ count := e.resampling.bounds.1
  have mirrors (power : count.isPowerOfTwo) (t : Transform ℝ) (level : Option Int)
      (pyramid : t.IsHaarPyramid) : t.Mirrors xs level ∧ t.Mirrors ys level :=
    ⟨pyramid.mirrors (sizeX ▸ power) (sizeX ▸ several) level,
      pyramid.mirrors (sizeY ▸ power) (sizeY ▸ several) level⟩
  refine ⟨sampledBack, sizeX, sizeY, mirrors, fun power haar pyramid => ?_⟩
  have isPyramid : (e.features.buildTransform : Transform ℝ).IsHaarPyramid := by
    right
    rw [FeatureSettings.buildTransform, haar, pyramid]
    rfl
  obtain ⟨mirrorsX, mirrorsY⟩ := mirrors power _ level isPyramid
  obtain ⟨x, x', sentX, backX, keptX, mirroredX, slots⟩ := mirrorsX
  obtain ⟨y, y', sentY, backY, keptY, mirroredY, _⟩ := mirrorsY
  have keptBack := mirroredX.length.trans keptX
  refine ⟨_, _, extract_eq sampled sentX sentY (keptX.trans sizeX) (keptY.trans sizeY),
    extract_eq sampledBack backX backY (keptBack.trans sizeX)
      ((mirroredY.length.trans keptY).trans sizeY), fun full => ?_⟩
  obtain ⟨first, second⟩ := slots (sizeX ▸ full)
  have positive := e.features.positive
  have fits := e.fits
  have slot {x y : List ℝ} {i : ℕ} (size : x.length = xs.length)
      (within : i < e.features.coefficientCount) :
      (0 :: (x.take e.features.coefficientCount ++ y.take e.features.coefficientCount))[i + 1]? =
        x[i]? := by
    rw [List.getElem?_cons_succ, List.getElem?_append_left (by rw [List.length_take]; omega),
      List.getElem?_take_of_lt within]
  constructor
  · exact (slot keptBack positive).trans (first.trans (slot keptX positive).symm)
  · intro more
    exact (slot keptBack more).trans (second.trans (congrArg _ (slot keptX more).symm))

/-- A word that turns back on a slant, with the default settings. -/
theorem reversed_word_slanted :
    let e : Extractor ℝ := ⟨⟨⟨[("a", ⟨0, 0⟩), ("b", ⟨3, 4⟩), ("c", ⟨6, 0⟩)], by simp⟩, 1, 1⟩,
      .default, .default, by decide⟩
    ∃ xs ys : List ℝ, e.resampledPath "abbc" = .ok (xs, ys) ∧
      e.resampledPath "cbba" = .ok (xs.reverse, ys.reverse) ∧
      ∃ v v' : FeatureVector ℝ, e.extract "abbc" = .ok v ∧ e.extract "cbba" = .ok v' ∧
        v'.values[1]? = v.values[1]? ∧
          v'.values[2]? = v.values[2]?.map fun value : ℝ => -value := by
  intro e
  have embedded : e.layout.Embedded ℝ := fun _ _ => ⟨rfl, rfl⟩
  have spelled : Word.letters "abbc" = ['a', 'b', 'b', 'c'] := rfl
  have mapped : ∀ letter ∈ Word.letters "abbc", (e.centre? letter).isSome := by
    rw [spelled]
    simp only [List.forall_mem_cons]
    exact ⟨rfl, rfl, rfl, rfl, nofun⟩
  have several : 2 ≤ (Word.letters "abbc").length := by
    rw [spelled]
    decide
  obtain ⟨⟨xs, ys⟩, sampled, _⟩ := e.resampledPath_ok "abbc" embedded several mapped
  obtain ⟨back, _, _, _, vectors⟩ := e.reversed_word "abbc" xs ys sampled
  obtain ⟨v, v', sent, sentBack, slots⟩ := vectors ⟨6, rfl⟩ rfl rfl
  obtain ⟨first, second⟩ := slots rfl
  exact ⟨xs, ys, sampled, back, v, v', sent, sentBack, first, second (by decide)⟩

end Extractor

end GestureLexicon
