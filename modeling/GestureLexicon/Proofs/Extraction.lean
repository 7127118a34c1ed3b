import GestureLexicon.Proofs.LineTransform
import GestureLexicon.Proofs.WordPath

/-!
What becomes of a word. The checks on it are made in one order: letters at all, then a key for each
of them, then two of them. A word that passes has a feature vector, since its signals are as long as
the settings say and the settings ask for no more coefficients than that. Main statement:
`Extractor.extract_cases`.
-/

namespace GestureLexicon
variable {κ α : Type}

theorem embedAll_self (xs : List α) : embedAll xs = (.ok xs : Except RangeError (List α)) := by
  induction xs with
  | nil => rfl
  | cons x xs ih =>
    rw [embedAll] at ih ⊢
    rw [List.mapM_cons, ih]
    rfl

namespace FeatureVector

theorem assemble_eq [Zero α] {x y : List α} {count : Nat} (enoughX : count ≤ x.length)
    (enoughY : count ≤ y.length) :
    assemble x y count = .ok ⟨0 :: (x.take count ++ y.take count)⟩ := by
  have enough : ¬((min x.length y.length : Nat) : Int) < count := by omega
  have kept (xs : List α) : leading xs (count : Int) = xs.take count := by
    rw [leading, if_pos (by omega), Int.toNat_natCast]
  rw [assemble, kept, kept, embedAll_self]
  simp only [← Nat.cast_min, enough, ↓reduceIte]
  rfl

variable [Zero α] {x y : List α} {count : Nat}

theorem parts_mk (sizeX : x.length = count) (sizeY : y.length = count) :
    let v : FeatureVector α := ⟨0 :: (x ++ y)⟩
    v.values.length = 1 + 2 * count ∧ v.xCoefficients = x ∧ v.yCoefficients = y := by
  intro v
  have length : v.values.length = 1 + 2 * count := by
    simp only [v, List.length_cons, List.length_append, sizeX, sizeY]
    omega
  have counted : v.coefficientCount = count := by
    rw [coefficientCount, length]
    omega
  refine ⟨length, ?_, ?_⟩
  · rw [xCoefficients, counted, Int.toNat_natCast]
    exact List.take_left' sizeX
  · rw [yCoefficients, counted, show (1 + (count : Int)).toNat = count + 1 by omega]
    exact List.drop_left' sizeX

theorem length_of_assemble {v : FeatureVector α} (sent : assemble x y count = .ok v) :
    v.values.length = 1 + 2 * count := by
  by_cases enough : ((min x.length y.length : Nat) : Int) < count
  · unfold assemble at sent
    simp only [← Nat.cast_min, enough, ↓reduceIte] at sent
    exact nomatch sent
  · have enoughX : count ≤ x.length := by omega
    have enoughY : count ≤ y.length := by omega
    rw [assemble_eq enoughX enoughY] at sent
    obtain rfl := Except.ok.inj sent
    exact (parts_mk (x.length_take_of_le enoughX) (y.length_take_of_le enoughY)).1

end FeatureVector

namespace Extractor
variable (e : Extractor κ) [Zero α] [Add α] [Sub α] [Neg α] [Mul α] [Div α] [Scalar α]

theorem forward_ok {xs : List α} (size : xs.length = e.resampling.sampleCount) :
    ∃ x, (e.features.buildTransform : Transform α).forward xs (e.features.level.map Int.ofNat) =
      .ok x ∧ x.length = e.resampling.sampleCount := by
  have accepted : (e.features.buildTransform : Transform α).Accepts xs.length := by
    have := e.resampling.bounds
    change 0 < xs.length
    omega
  obtain ⟨x, sent, kept, _⟩ := Transform.keeps_forward _ accepted xs rfl
  exact ⟨x, sent, kept.trans size⟩

theorem vector_congr {κ' : Type} {e' : Extractor κ'} (features : e'.features = e.features)
    (axes : List α × List α) : e'.vector axes = e.vector axes := by
  unfold vector
  rw [features]

theorem vector_eq {xs ys x y : List α}
    (sentX : (e.features.buildTransform : Transform α).forward xs (e.features.level.map Int.ofNat) =
      .ok x)
    (sentY : (e.features.buildTransform : Transform α).forward ys (e.features.level.map Int.ofNat) =
      .ok y)
    (enoughX : e.features.coefficientCount ≤ x.length)
    (enoughY : e.features.coefficientCount ≤ y.length) :
    e.vector (xs, ys) = .ok ⟨0 :: (x.take e.features.coefficientCount ++
      y.take e.features.coefficientCount)⟩ := by
  simp only [vector, sentX, sentY]
  change (FeatureVector.assemble x y _).mapError ExtractionError.features = _
  rw [FeatureVector.assemble_eq enoughX enoughY]
  rfl

theorem vector_ok {axes : List α × List α} (sizeX : axes.1.length = e.resampling.sampleCount)
    (sizeY : axes.2.length = e.resampling.sampleCount) :
    ∃ x y, (e.features.buildTransform : Transform α).forward axes.1
        (e.features.level.map Int.ofNat) = .ok x ∧
      (e.features.buildTransform : Transform α).forward axes.2
        (e.features.level.map Int.ofNat) = .ok y ∧
      ∃ v, e.vector axes = .ok v ∧ v.values.length = 1 + 2 * e.features.coefficientCount ∧
        v.values.head? = some 0 ∧ v.xCoefficients = x.take e.features.coefficientCount ∧
        v.yCoefficients = y.take e.features.coefficientCount := by
  obtain ⟨x, sentX, keptX⟩ := e.forward_ok sizeX
  obtain ⟨y, sentY, keptY⟩ := e.forward_ok sizeY
  have fits := e.fits
  have enoughX : e.features.coefficientCount ≤ x.length := by omega
  have enoughY : e.features.coefficientCount ≤ y.length := by omega
  have parts := FeatureVector.parts_mk (x.length_take_of_le enoughX) (y.length_take_of_le enoughY)
  exact ⟨x, y, sentX, sentY, _, e.vector_eq sentX sentY enoughX enoughY, parts.1, rfl, parts.2⟩

variable [Embeds κ α] (word : String)

theorem extract_error {fault : WordError} (failed : e.corners word = .error fault) :
    (e.extract word : Except ExtractionError (FeatureVector α)) = .error (.word fault) := by
  rw [extract, resampledPath, path, failed]
  rfl

theorem corners_unmapped {before after : List Char} {letter : Char}
    (spelled : Word.letters word = before ++ letter :: after)
    (mapped : ∀ c ∈ before, (e.centre? c).isSome) (unmapped : e.centre? letter = none) :
    e.corners word = .error ⟨word, .unmapped letter⟩ := by
  have nonempty : (Word.letters word).isEmpty = false := by
    rw [spelled]
    simp
  rw [corners, nonempty, e.points_error word spelled mapped unmapped]
  rfl

theorem corners_singleLetter {letter : Char} (spelled : Word.letters word = [letter])
    (mapped : (e.centre? letter).isSome) :
    e.corners word = .error ⟨word, .singleLetter⟩ := by
  obtain ⟨centres, sent, size, _⟩ := e.points_ok word (by simpa [spelled] using mapped)
  have few : centres.length < 2 := by
    rw [size, spelled]
    exact Nat.one_lt_two
  rw [corners, spelled, sent]
  simp only [List.isEmpty_cons, Bool.false_eq_true, ↓reduceIte]
  exact if_pos few

theorem extract_ok (embedded : e.layout.Embedded α) (several : 2 ≤ (Word.letters word).length)
    (mapped : ∀ letter ∈ Word.letters word, (e.centre? letter).isSome) :
    ∃ v : FeatureVector α, e.extract word = .ok v := by
  obtain ⟨axes, sampled, sizeX, sizeY⟩ := e.resampledPath_ok word embedded several mapped
  obtain ⟨_, _, _, _, v, assembled, _⟩ := e.vector_ok sizeX sizeY
  refine ⟨v, ?_⟩
  rw [extract, sampled]
  exact assembled

/-- A word ends in one of four ways, which its letters and the keys for them decide in this order.
Nothing but the word is ever at fault. -/
theorem extract_cases (e : Extractor κ) (word : String) (embedded : e.layout.Embedded α) :
    let letters := (Word.normalize word).toList
    let level := e.features.level.map Int.ofNat
    let transform : Transform α := e.features.buildTransform
    let count := e.features.coefficientCount
    let result : Except ExtractionError (FeatureVector α) := e.extract word
    (letters = [] ∧ result = .error (.word ⟨word, .noLetters⟩) ∧
      WordFault.noLetters.reason = "no letters after normalization") ∨
    (∃ before letter after, letters = before ++ letter :: after ∧
      (∀ c ∈ before, (e.centre? c).isSome) ∧ e.centre? letter = none ∧
      result = .error (.word ⟨word, .unmapped letter⟩)) ∨
    (∃ letter, letters = [letter] ∧ (e.centre? letter).isSome ∧
      result = .error (.word ⟨word, .singleLetter⟩) ∧
      WordFault.singleLetter.reason = "single-letter words have no path") ∨
    (2 ≤ letters.length ∧ (∀ c ∈ letters, (e.centre? c).isSome) ∧
      ∃ xs ys x y v, e.resampledPath word = .ok (xs, ys) ∧
        xs.length = e.resampling.sampleCount ∧ ys.length = e.resampling.sampleCount ∧
        transform.forward xs level = .ok x ∧ transform.forward ys level = .ok y ∧
        result = .ok v ∧ v.values.length = 1 + 2 * count ∧ v.values.head? = some 0 ∧
        v.xCoefficients = x.take count ∧ v.yCoefficients = y.take count) := by
  intro letters level transform count result
  have spelled : Word.letters word = letters := String.toList_ofList.symm
  cases search : letters.find? fun c => (e.centre? c).isNone with
  | some letter =>
    obtain ⟨unmapped, before, after, split, mapped⟩ := List.find?_eq_some_iff_append.mp search
    have missing : e.centre? letter = none := Option.isNone_iff_eq_none.mp unmapped
    have found : ∀ c ∈ before, (e.centre? c).isSome := fun c member => by
      simpa using mapped c member
    exact .inr (.inl ⟨before, letter, after, split, found, missing,
      e.extract_error word (e.corners_unmapped word (spelled.trans split) found missing)⟩)
  | none =>
    have found : ∀ c ∈ letters, (e.centre? c).isSome := fun c member => by
      have key := List.find?_eq_none.mp search c member
      rwa [Bool.not_eq_true, Option.isNone_eq_false_iff] at key
    match shape : letters with
    | [] => exact .inl ⟨rfl, e.extract_error word (e.corners_noLetters word spelled), rfl⟩
    | [letter] =>
      have key := found letter List.mem_cons_self
      exact .inr (.inr (.inl ⟨letter, rfl, key,
        e.extract_error word (e.corners_singleLetter word spelled key), rfl⟩))
    | first :: second :: rest =>
      have several : 2 ≤ (Word.letters word).length := by
        rw [spelled]
        simp
      obtain ⟨⟨xs, ys⟩, sampled, sizeX, sizeY⟩ :=
        e.resampledPath_ok word embedded several (spelled.symm ▸ found)
      obtain ⟨x, y, sentX, sentY, v, assembled, parts⟩ := e.vector_ok sizeX sizeY
      refine .inr (.inr (.inr ⟨spelled ▸ several, found, xs, ys, x, y, v, sampled, sizeX, sizeY,
        sentX, sentY, ?_, parts⟩))
      change e.extract word = .ok v
      rw [extract, sampled]
      exact assembled

/-- Two keys are enough for a vector of the default settings. -/
theorem extract_cases_two_keys :
    let e : Extractor Coordinate :=
      ⟨⟨⟨[("a", ⟨.real 0, .real 0⟩), ("b", ⟨.real 3, .real 4⟩)], by decide⟩, .real 1, .real 1⟩,
        .default, .default, by decide⟩
    e.layout.Embedded Float ∧ ∃ v : FeatureVector Float, e.extract "A-b!" = .ok v ∧
      v.values.length = 17 ∧ v.values.head? = some 0 := by
  intro e
  have embedded : e.layout.Embedded Float := by
    intro entry member
    rcases List.mem_pair.mp member with rfl | rfl <;> exact ⟨rfl, rfl⟩
  have letters : (Word.normalize "A-b!").toList = ['a', 'b'] := rfl
  refine ⟨embedded, ?_⟩
  rcases e.extract_cases "A-b!" embedded with empty | unmapped | single | several
  · rw [letters] at empty
    exact absurd empty.1 (by decide)
  · obtain ⟨before, letter, after, split, _, missing, _⟩ := unmapped
    have member : letter ∈ ['a', 'b'] := by
      rw [← letters, split]
      simp
    have keyed : (e.centre? letter).isSome := by
      rcases List.mem_pair.mp member with rfl | rfl <;> rfl
    rw [missing] at keyed
    exact absurd keyed (by decide)
  · obtain ⟨letter, split, _⟩ := single
    rw [letters] at split
    exact absurd (congrArg List.length split) (Nat.succ_ne_self 1)
  · obtain ⟨_, _, _, _, _, _, v, _, _, _, _, _, sent, length, first, _⟩ := several
    exact ⟨v, sent, length, first⟩

end Extractor

end GestureLexicon
