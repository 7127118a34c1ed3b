import GestureLexicon.Extraction
import GestureLexicon.Proofs.Traversal
import Mathlib

/-!
The path of a word on a keyboard whose coordinates have scalars. A word that has two letters or more,
each with a key, has a path, and nothing on the way to its samples is refused: coordinates, segment
lengths and samples come in the numbers that the next step asks for. Any other word is at fault.
-/

namespace GestureLexicon
variable {κ α β γ ε : Type}

section
variable [Embeds κ α]

def Embedded (α : Type) [Embeds κ α] (xs : List κ) : Prop :=
  ∀ x ∈ xs, (Embeds.embed x : Option α).isSome

theorem embedAll_ok {xs : List κ} (embedded : Embedded α xs) :
    ∃ ys : List α, embedAll xs = .ok ys ∧ ys.length = xs.length := by
  have fine : ∀ x ∈ xs, ∃ y, (embed x : Except RangeError α) = .ok y ∧ True := by
    intro x member
    obtain ⟨value, read⟩ := Option.isSome_iff_exists.mp (embedded x member)
    exact ⟨value, by rw [embed, read], trivial⟩
  obtain ⟨ys, sent, size, _⟩ := mapM_ok_of_forall fine
  exact ⟨ys, sent, size⟩

def KeyLayout.Embedded (α : Type) [Embeds κ α] (l : KeyLayout κ) : Prop :=
  ∀ entry ∈ l.positions.entries,
    (Embeds.embed entry.2.x : Option α).isSome ∧ (Embeds.embed entry.2.y : Option α).isSome

theorem KeyLayout.Embedded.position? {l : KeyLayout κ} (embedded : l.Embedded α) {key : String}
    {centre : Point κ} (found : l.position? key = some centre) :
    (Embeds.embed centre.x : Option α).isSome ∧ (Embeds.embed centre.y : Option α).isSome := by
  obtain ⟨before, after, entries, _⟩ := List.lookup_eq_some_iff.mp found
  exact embedded (key, centre) (by rw [entries]; simp)

theorem Path.coordinates_ok {points : List (Point κ)}
    (xs : Embedded α (points.map Point.x)) (ys : Embedded α (points.map Point.y)) :
    ∃ axes : List α × List α, Path.coordinates points = .ok axes ∧
      axes.1.length = points.length ∧ axes.2.length = points.length := by
  obtain ⟨x, readX, sizeX⟩ := embedAll_ok xs
  obtain ⟨y, readY, sizeY⟩ := embedAll_ok ys
  rw [List.length_map] at sizeX sizeY
  refine ⟨(x, y), ?_, sizeX, sizeY⟩
  rw [Path.coordinates, readX, readY]
  rfl

theorem Path.length_coordinates {points : List (Point κ)} {xs ys : List α}
    (read : Path.coordinates points = .ok (xs, ys)) :
    xs.length = points.length ∧ ys.length = points.length := by
  obtain ⟨x, readX, read⟩ := bind_eq_ok read
  obtain ⟨y, readY, made⟩ := bind_eq_ok read
  obtain ⟨rfl, rfl⟩ := Prod.mk.inj (Except.ok.inj made)
  have sizeX := (forall₂_of_mapM (mapError_eq_ok readX)).length_eq
  have sizeY := (forall₂_of_mapM (mapError_eq_ok readY)).length_eq
  rw [List.length_map] at sizeX sizeY
  exact ⟨sizeX.symm, sizeY.symm⟩

end

theorem Path.length_steps [Sub α] (xs : List α) : (Path.steps xs).length = xs.length - 1 := by
  fun_induction Path.steps xs with
  | case1 a b rest ih => rw [List.length_cons, ih]; rfl
  | case2 xs short =>
    match xs, short with
    | [], _ => rfl
    | [_], _ => rfl
    | a :: b :: rest, short => exact absurd rfl (short a b rest)

theorem Path.getElem_steps [Sub α] {xs : List α} {i : ℕ} (below : i < (Path.steps xs).length)
    (second : i + 1 < xs.length) : (Path.steps xs)[i] = xs[i + 1] - xs[i] := by
  fun_induction Path.steps xs generalizing i with
  | case1 a b rest ih =>
    cases i with
    | zero => rfl
    | succ i => exact ih (Nat.lt_of_succ_lt_succ below) (Nat.lt_of_succ_lt_succ second)
  | case2 xs short => exact absurd below (Nat.not_lt_zero i)

theorem Path.segmentLengths_ok [Sub α] [Scalar α] {xs ys : List α}
    (same : xs.length = ys.length) :
    ∃ lengths, Path.segmentLengths xs ys = .ok lengths ∧ lengths.length = xs.length - 1 := by
  refine ⟨_, if_neg (not_not.mpr same), ?_⟩
  rw [List.length_zipWith, length_steps, length_steps, same, min_self]

theorem Path.segmentLengths_eq_ok [Sub α] [Scalar α] {xs ys lengths : List α}
    (measured : Path.segmentLengths xs ys = .ok lengths) :
    xs.length = ys.length ∧ lengths = List.zipWith Scalar.hypot (Path.steps xs) (Path.steps ys) := by
  unfold Path.segmentLengths at measured
  split_ifs at measured with differ
  exact ⟨not_not.mp differ, (Except.ok.inj measured).symm⟩

namespace Resample

theorem length_walk [Add α] [Scalar α] (lengths : Array α) (targets : List α) (c : Cursor α) :
    (walk lengths targets c).length = targets.length := by
  induction targets generalizing c with
  | nil => rfl
  | cons target rest ih => simp only [walk, List.length_cons, ih]

end Resample

section
variable [Zero α] [Add α] [Sub α] [Mul α] [Div α] [Scalar α]

theorem length_of_resample {values lengths samples : List α} {count : Nat}
    (sent : resample values lengths count = .ok samples) : samples.length = count := by
  unfold resample at sent
  split at sent
  · exact nomatch sent
  split at sent
  · exact nomatch sent
  split at sent
  · exact nomatch sent
  obtain rfl := Except.ok.inj sent
  rw [List.length_map, Resample.places, Resample.length_walk, Resample.targets, List.length_map,
    List.length_range, Int.toNat_natCast]

theorem resample_ok {values lengths : List α} {count : Nat} (several : 2 ≤ values.length)
    (matched : lengths.length = values.length - 1) (asked : 2 ≤ count) :
    ∃ samples, resample values lengths count = .ok samples ∧ samples.length = count := by
  have valid : ¬values.length < 2 := by omega
  have enough : ¬(count : Int) < 2 := by omega
  obtain ⟨samples, sent⟩ : ∃ samples, resample values lengths count = .ok samples := by
    rw [resample, dif_neg valid, if_neg (not_not.mpr matched), if_neg enough]
    exact ⟨_, rfl⟩
  exact ⟨samples, sent, length_of_resample sent⟩

end

namespace Extractor
variable (e : Extractor κ) (word : String)

def centre? (letter : Char) : Option (Point κ) :=
  e.layout.position? (String.singleton letter)

theorem points_eq_ok {e : Extractor κ} {word : String} {centres : List (Point κ)} :
    e.points word = .ok centres ↔
      List.Forall₂ (fun letter centre => e.centre? letter = some centre) (Word.letters word)
        centres := by
  constructor
  · refine fun read => (forall₂_of_mapM read).imp fun letter centre found => ?_
    unfold centre?
    cases keyed : e.layout.position? (String.singleton letter) with
    | none =>
      rw [keyed] at found
      exact nomatch found
    | some place =>
      rw [keyed] at found
      exact congrArg some (Except.ok.inj found)
  · intro found
    refine mapM_of_forall₂ (found.imp fun letter centre keyed => ?_)
    unfold centre? at keyed
    rw [keyed]

theorem points_ok (mapped : ∀ letter ∈ Word.letters word, (e.centre? letter).isSome) :
    ∃ centres, e.points word = .ok centres ∧ centres.length = (Word.letters word).length ∧
      ∀ centre ∈ centres, ∃ letter, e.centre? letter = some centre := by
  refine mapM_ok_of_forall fun letter member => ?_
  obtain ⟨centre, found⟩ := Option.isSome_iff_exists.mp (mapped letter member)
  rw [centre?] at found
  exact ⟨centre, by rw [found], letter, found⟩

theorem points_error {before after : List Char} {letter : Char}
    (spelled : Word.letters word = before ++ letter :: after)
    (mapped : ∀ c ∈ before, (e.centre? c).isSome) (unmapped : e.centre? letter = none) :
    e.points word = .error ⟨word, .unmapped letter⟩ := by
  rw [points, spelled]
  refine mapM_error (fun c member => ?_) ?_
  · obtain ⟨centre, found⟩ := Option.isSome_iff_exists.mp (mapped c member)
    rw [centre?] at found
    exact ⟨centre, by rw [found]⟩
  · rw [centre?] at unmapped
    rw [unmapped]

theorem corners_noLetters (empty : Word.letters word = []) :
    e.corners word = .error ⟨word, .noLetters⟩ := by
  rw [corners, empty]
  rfl

theorem corners_eq_ok {e : Extractor κ} {word : String} {centres : List (Point κ)} :
    e.corners word = .ok centres ↔
      Word.letters word ≠ [] ∧ e.points word = .ok centres ∧ 2 ≤ centres.length := by
  by_cases empty : Word.letters word = []
  · rw [e.corners_noLetters word empty]
    refine iff_of_false ?_ fun read => absurd empty read.1
    intro read
    cases read
  · have present : (Word.letters word).isEmpty = false := List.isEmpty_eq_false_iff.mpr empty
    simp only [corners, present, Bool.false_eq_true, ↓reduceIte]
    constructor
    · intro read
      obtain ⟨places, found, read⟩ := bind_eq_ok read
      by_cases few : places.length < 2
      · rw [if_pos few] at read
        cases read
      · rw [if_neg few] at read
        obtain rfl := Except.ok.inj read
        exact ⟨empty, found, not_lt.mp few⟩
    · rintro ⟨_, found, several⟩
      rw [found]
      exact if_neg several.not_gt

theorem corners_ok (several : 2 ≤ (Word.letters word).length)
    (mapped : ∀ letter ∈ Word.letters word, (e.centre? letter).isSome) :
    ∃ centres, e.corners word = .ok centres ∧ 2 ≤ centres.length ∧
      ∀ centre ∈ centres, ∃ letter, e.centre? letter = some centre := by
  obtain ⟨centres, sent, size, placed⟩ := e.points_ok word mapped
  have nonempty : (Word.letters word).isEmpty = false := by
    cases spelled : Word.letters word with
    | nil => simp [spelled] at several
    | cons letter rest => rfl
  have enough : ¬centres.length < 2 := by omega
  refine ⟨centres, ?_, size ▸ several, placed⟩
  simp only [corners, nonempty, Bool.false_eq_true, ↓reduceIte, sent]
  exact if_neg enough

variable [Embeds κ α] [Sub α] [Scalar α]

theorem path_eq {e : Extractor κ} {word : String} {centres : List (Point κ)}
    {xs ys lengths : List α} (placed : e.corners word = .ok centres)
    (located : Path.coordinates centres = .ok (xs, ys))
    (measured : Path.segmentLengths xs ys = .ok lengths) :
    e.path word = .ok ⟨xs, ys, lengths⟩ := by
  rw [path, placed]
  change (Path.coordinates centres).mapError ExtractionError.path >>= _ = _
  rw [located]
  change (Path.segmentLengths xs ys).mapError ExtractionError.path >>= _ = _
  rw [measured]
  rfl

theorem path_eq_ok {e : Extractor κ} {word : String} {p : WordPath α}
    (read : e.path word = .ok p) :
    ∃ centres, e.corners word = .ok centres ∧ Path.coordinates centres = .ok (p.xs, p.ys) ∧
      Path.segmentLengths p.xs p.ys = .ok p.lengths := by
  obtain ⟨centres, placed, read⟩ := bind_eq_ok read
  obtain ⟨⟨xs, ys⟩, located, read⟩ := bind_eq_ok read
  obtain ⟨lengths, measured, made⟩ := bind_eq_ok read
  obtain rfl := Except.ok.inj made
  exact ⟨centres, mapError_eq_ok placed, mapError_eq_ok located, mapError_eq_ok measured⟩

theorem sizes_of_path {e : Extractor κ} {word : String} {p : WordPath α}
    (read : e.path word = .ok p) :
    2 ≤ p.xs.length ∧ p.ys.length = p.xs.length ∧ p.lengths.length = p.xs.length - 1 := by
  obtain ⟨centres, placed, located, measured⟩ := path_eq_ok read
  obtain ⟨_, _, several⟩ := corners_eq_ok.mp placed
  obtain ⟨sizeX, sizeY⟩ := Path.length_coordinates located
  obtain ⟨same, made⟩ := Path.segmentLengths_eq_ok measured
  refine ⟨sizeX ▸ several, same.symm, ?_⟩
  rw [made, List.length_zipWith, Path.length_steps, Path.length_steps, same, min_self]

theorem path_ok (embedded : e.layout.Embedded α) (several : 2 ≤ (Word.letters word).length)
    (mapped : ∀ letter ∈ Word.letters word, (e.centre? letter).isSome) :
    ∃ p : WordPath α, e.path word = .ok p := by
  obtain ⟨centres, sent, _, placed⟩ := e.corners_ok word several mapped
  have within : ∀ centre ∈ centres,
      (Embeds.embed centre.x : Option α).isSome ∧ (Embeds.embed centre.y : Option α).isSome := by
    intro centre member
    obtain ⟨letter, found⟩ := placed centre member
    exact embedded.position? found
  have alongX : Embedded α (centres.map Point.x) := by
    intro x member
    obtain ⟨centre, among, rfl⟩ := List.mem_map.mp member
    exact (within centre among).1
  have alongY : Embedded α (centres.map Point.y) := by
    intro y member
    obtain ⟨centre, among, rfl⟩ := List.mem_map.mp member
    exact (within centre among).2
  obtain ⟨⟨xs, ys⟩, read, sizeX, sizeY⟩ := Path.coordinates_ok alongX alongY
  obtain ⟨lengths, measured, _⟩ := Path.segmentLengths_ok (sizeX.trans sizeY.symm)
  exact ⟨_, path_eq sent read measured⟩

variable [Zero α] [Add α] [Mul α] [Div α]

theorem resampledPath_eq {e : Extractor κ} {word : String} {p : WordPath α} {xs ys : List α}
    (read : e.path word = .ok p)
    (sampledX : resample p.xs p.lengths e.resampling.sampleCount = .ok xs)
    (sampledY : resample p.ys p.lengths e.resampling.sampleCount = .ok ys) :
    e.resampledPath word = .ok (xs, ys) := by
  rw [resampledPath, read]
  change (p.resampled e.resampling.sampleCount).mapError ExtractionError.resample = _
  rw [WordPath.resampled, sampledX, sampledY]
  rfl

/-- Both axes of a path are sampled over the same segments. -/
theorem resampledPath_eq_ok {e : Extractor κ} {word : String} {xs ys : List α}
    (sampled : e.resampledPath word = .ok (xs, ys)) :
    ∃ p : WordPath α, e.path word = .ok p ∧ Path.segmentLengths p.xs p.ys = .ok p.lengths ∧
      resample p.xs p.lengths e.resampling.sampleCount = .ok xs ∧
      resample p.ys p.lengths e.resampling.sampleCount = .ok ys := by
  obtain ⟨p, read, sampled⟩ := bind_eq_ok sampled
  obtain ⟨x, sampledX, sampled⟩ := bind_eq_ok (mapError_eq_ok sampled)
  obtain ⟨y, sampledY, made⟩ := bind_eq_ok sampled
  obtain ⟨rfl, rfl⟩ := Prod.mk.inj (Except.ok.inj made)
  obtain ⟨_, _, _, measured⟩ := path_eq_ok read
  exact ⟨p, read, measured, sampledX, sampledY⟩

theorem resampledPath_of_path {e : Extractor κ} {word : String} {p : WordPath α}
    (read : e.path word = .ok p) :
    ∃ xs ys, resample p.xs p.lengths e.resampling.sampleCount = .ok xs ∧
      resample p.ys p.lengths e.resampling.sampleCount = .ok ys ∧
      e.resampledPath word = .ok (xs, ys) := by
  obtain ⟨several, same, matched⟩ := sizes_of_path read
  have asked : 2 ≤ e.resampling.sampleCount := e.resampling.bounds.1
  obtain ⟨xs, sampledX, _⟩ := resample_ok several matched asked
  obtain ⟨ys, sampledY, _⟩ := resample_ok (same ▸ several) (same.symm ▸ matched) asked
  exact ⟨xs, ys, sampledX, sampledY, resampledPath_eq read sampledX sampledY⟩

theorem resampledPath_ok (embedded : e.layout.Embedded α)
    (several : 2 ≤ (Word.letters word).length)
    (mapped : ∀ letter ∈ Word.letters word, (e.centre? letter).isSome) :
    ∃ axes : List α × List α, e.resampledPath word = .ok axes ∧
      axes.1.length = e.resampling.sampleCount ∧ axes.2.length = e.resampling.sampleCount := by
  obtain ⟨p, read⟩ := e.path_ok word embedded several mapped
  obtain ⟨xs, ys, sampledX, sampledY, sampled⟩ := resampledPath_of_path read
  exact ⟨(xs, ys), sampled, length_of_resample sampledX, length_of_resample sampledY⟩

theorem length_resampledPath {e : Extractor κ} {word : String} {xs ys : List α}
    (sampled : e.resampledPath word = .ok (xs, ys)) :
    xs.length = e.resampling.sampleCount ∧ ys.length = e.resampling.sampleCount := by
  obtain ⟨p, _, _, sampledX, sampledY⟩ := resampledPath_eq_ok sampled
  exact ⟨length_of_resample sampledX, length_of_resample sampledY⟩

end Extractor

end GestureLexicon
