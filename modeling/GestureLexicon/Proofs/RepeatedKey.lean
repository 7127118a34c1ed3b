import GestureLexicon.Proofs.ConstantSignals
import GestureLexicon.Proofs.Reversal

/-!
Words that repeat one key. Such a path stands still: all its segments are without length, so every
sample is the key's centre, and both signals are constant. What is computed from there is exact in
numbers that know a division by zero from all other quotients and never come back from one; it meets
none. Main statement: `Extractor.repeated_key`.
-/

namespace GestureLexicon
variable {κ α : Type}

/-- A real number, or what is left of a division by zero and of all that is computed with it. -/
inductive Watched where
  | number (x : ℝ)
  | broken

namespace Watched

def map (f : ℝ → ℝ) : Watched → Watched
  | number x => number (f x)
  | broken => broken

def both (f : ℝ → ℝ → ℝ) : Watched → Watched → Watched
  | number x, number y => number (f x y)
  | _, _ => broken

noncomputable instance : Zero Watched := ⟨number 0⟩
noncomputable instance : Add Watched := ⟨both (· + ·)⟩
noncomputable instance : Sub Watched := ⟨both (· - ·)⟩
noncomputable instance : Mul Watched := ⟨both (· * ·)⟩
noncomputable instance : Neg Watched := ⟨map (- ·)⟩

open Classical in
noncomputable instance : Div Watched where
  div
    | number x, number y => if y = 0 then broken else number (x / y)
    | _, _ => broken

noncomputable instance : Scalar Watched where
  ofNat n := number (Scalar.ofNat n)
  sqrt := map Scalar.sqrt
  hypot := both Scalar.hypot
  less
    | number x, number y => Scalar.less x y
    | _, _ => false
  isZero
    | number x => Scalar.isZero x
    | broken => false

instance [Embeds κ ℝ] : Embeds κ Watched := ⟨fun x => (Embeds.embed x).map number⟩

end Watched

section
variable [Zero α] [Add α] [Sub α] [Neg α] [Mul α] [Div α] [Scalar α]

/-- The reals among numbers of another kind, which compute with these as the reals do. A division by
zero may give anything. -/
structure CarriesReals (f : ℝ → α) : Prop extends Carries f where
  sub : ∀ x y, f (x - y) = f x - f y
  div : ∀ x y, y ≠ 0 → f (x / y) = f x / f y
  ofNat : ∀ n, f (Scalar.ofNat n) = Scalar.ofNat n
  sqrt : ∀ x, f (Scalar.sqrt x) = Scalar.sqrt (f x)
  hypot : ∀ x y, f (Scalar.hypot x y) = Scalar.hypot (f x) (f y)
  less : ∀ x y, Scalar.less (f x) (f y) = Scalar.less x y
  isZero : ∀ x, Scalar.isZero (f x) = Scalar.isZero x

end

theorem carriesReals_id : CarriesReals (id : ℝ → ℝ) where
  toCarries := carries_id
  sub _ _ := rfl
  div _ _ _ := rfl
  ofNat _ := rfl
  sqrt _ := rfl
  hypot _ _ := rfl
  less _ _ := rfl
  isZero _ := rfl

theorem carriesReals_number : CarriesReals Watched.number where
  zero := rfl
  add _ _ := rfl
  mul _ _ := rfl
  neg _ := rfl
  sub _ _ := rfl
  div _ _ nonzero := (if_neg nonzero).symm
  ofNat _ := rfl
  sqrt _ := rfl
  hypot _ _ := rfl
  less _ _ := rfl
  isZero _ := rfl

section
variable [Zero α] [Add α] (idle : (0 : α) + 0 = 0)
include idle

theorem foldl_zeros {xs : List α} (zeros : ∀ x ∈ xs, x = 0) : xs.foldl (· + ·) 0 = 0 := by
  induction xs with
  | nil => rfl
  | cons x xs ih =>
    obtain ⟨rfl, rest⟩ := List.forall_mem_cons.mp zeros
    rw [List.foldl_cons, idle, ih rest]

theorem laneSum_zeros {r0 r1 r2 r3 r4 r5 r6 r7 : α} {xs : List α}
    (totals : ∀ r ∈ [r0, r1, r2, r3, r4, r5, r6, r7], r = 0) (zeros : ∀ x ∈ xs, x = 0) :
    laneSum r0 r1 r2 r3 r4 r5 r6 r7 xs = 0 := by
  fun_induction laneSum r0 r1 r2 r3 r4 r5 r6 r7 xs with
  | case1 r0 r1 r2 r3 r4 r5 r6 r7 x0 x1 x2 x3 x4 x5 x6 x7 rest ih =>
    simp only [List.forall_mem_cons, List.not_mem_nil, false_implies, implies_true, and_true]
      at totals zeros ih
    simp only [totals, zeros, idle, and_self, true_implies] at ih ⊢
    exact ih zeros.2.2.2.2.2.2.2.2
  | case2 r0 r1 r2 r3 r4 r5 r6 r7 rest =>
    simp only [List.forall_mem_cons, List.not_mem_nil, false_implies, implies_true, and_true]
      at totals
    simp only [totals, idle]
    exact foldl_zeros idle zeros

theorem blockSum_zeros {xs : List α} (zeros : ∀ x ∈ xs, x = 0) : blockSum xs = 0 := by
  fun_cases blockSum xs with
  | case1 x0 x1 x2 x3 x4 x5 x6 x7 rest =>
    refine laneSum_zeros idle (fun r member => zeros r ?_) fun r member => zeros r ?_
    · simp only [List.mem_cons] at member ⊢
      tauto
    · simp only [List.mem_cons]
      tauto
  | case2 =>
    cases xs with
    | nil => rfl
    | cons x xs =>
      obtain ⟨rfl, rest⟩ := List.forall_mem_cons.mp zeros
      exact foldl_zeros idle rest

theorem pairwiseSum_zeros {xs : List α} (zeros : ∀ x ∈ xs, x = 0) : pairwiseSum xs = 0 := by
  fun_induction pairwiseSum xs with
  | case1 xs => exact blockSum_zeros idle zeros
  | case2 xs _ cut first second =>
    rw [first fun x member => zeros x (List.mem_of_mem_take member),
      second fun x member => zeros x (List.mem_of_mem_drop member), idle]

end

theorem Path.steps_replicate [Sub α] (a : α) (n : ℕ) :
    steps (.replicate (n + 1) a) = .replicate n (a - a) := by
  induction n with
  | zero => rfl
  | succ n ih =>
    rw [List.replicate_succ, List.replicate_succ, steps, ← List.replicate_succ, ih,
      ← List.replicate_succ]

namespace Extractor
variable (e : Extractor κ)

/-- The coefficients of a signal that stands at a value, part by part of as many samples as the
settings say. -/
noncomputable def settledParts (c : ℝ) : List ℝ :=
  (Multipliers.parts e.resampling.sampleCount).flatMap fun part =>
    (Wavelet.ofNamed e.features.wavelet : Wavelet ℝ).settled (e.features.level.map Int.ofNat) c
      part.2

theorem length_settledParts (c : ℝ) :
    (e.settledParts c).length = e.resampling.sampleCount := by
  rw [settledParts, List.length_flatMap]
  simp only [Wavelet.length_settled]
  exact (congrArg List.sum (Multipliers.map_snd_parts _)).trans (Multipliers.sum_sizes _)

noncomputable def resting (c : ℝ) : List ℝ :=
  (e.settledParts c).take e.features.coefficientCount

section
variable {e} {word : String} {letter : Char} {k : ℕ}
  (spelled : Word.letters word = .replicate k letter) (several : 2 ≤ k) {centre : Point κ}
  (placed : e.centre? letter = some centre)
include spelled several placed

theorem corners_repeated : e.corners word = .ok (.replicate k centre) := by
  have points : e.points word = .ok (.replicate k centre) := by
    rw [centre?] at placed
    rw [points, spelled]
    exact mapM_replicate (by rw [placed]) k
  refine corners_eq_ok.mpr ⟨?_, points, by rwa [List.length_replicate]⟩
  rw [spelled]
  exact List.ne_nil_of_length_pos (by rw [List.length_replicate]; omega)

end

end Extractor

variable [Zero α] [Add α] [Sub α] [Neg α] [Mul α] [Div α] [Scalar α]

namespace CarriesReals
variable {f : ℝ → α} (carries : CarriesReals f)
include carries

theorem pairwiseSum_zeros (n : ℕ) : pairwiseSum (.replicate n (f 0)) = f 0 := by
  have idle : (0 : α) + 0 = 0 := by rw [← carries.zero, ← carries.add, add_zero]
  rw [carries.zero]
  exact GestureLexicon.pairwiseSum_zeros idle fun x member => List.eq_of_mem_replicate member

theorem segmentLengths (x y : ℝ) (n : ℕ) :
    Path.segmentLengths (.replicate (n + 1) (f x)) (.replicate (n + 1) (f y)) =
      .ok (.replicate n (f 0)) := by
  have still : Scalar.hypot (f x - f x) (f y - f y) = f 0 := by
    rw [← carries.sub, ← carries.sub, sub_self, sub_self, ← carries.hypot]
    simp [Scalar.hypot]
  rw [Path.segmentLengths, if_neg (by simp), Path.steps_replicate, Path.steps_replicate,
    List.zipWith_replicate, min_self, still]

theorem targets {count : ℕ} (several : 2 ≤ count) :
    Resample.targets (f 0) count = .replicate count (f 0) := by
  rw [Resample.targets, List.eq_replicate_iff]
  refine ⟨by simp, ?_⟩
  rintro _ member
  obtain ⟨i, _, rfl⟩ := List.mem_map.mp member
  have nonzero : (Scalar.ofNat (count - 1) : ℝ) ≠ 0 := by
    change ((count - 1 : ℕ) : ℝ) ≠ 0
    exact Nat.cast_ne_zero.mpr (by omega)
  rw [← carries.ofNat, ← carries.ofNat, ← carries.mul, ← carries.div _ _ nonzero, mul_zero, zero_div]

theorem advance (segments : ℕ) :
    (⟨0, 0⟩ : Resample.Cursor α).advance (List.replicate segments (f 0)).toArray (f 0) =
      ⟨0, 0⟩ := by
  have stays : Scalar.less (0 + f 0) (f 0) = false := by
    rw [← carries.zero, ← carries.add, add_zero, carries.less]
    exact decide_eq_false (lt_irrefl 0)
  exact Resample.advance_of_stays fun _ => by simp [stays]

theorem walk (segments count : ℕ) :
    Resample.walk (List.replicate segments (f 0)).toArray (.replicate count (f 0)) ⟨0, 0⟩ =
      .replicate count (f 0, ⟨0, 0⟩) := by
  induction count with
  | zero => rfl
  | succ count ih => rw [List.replicate_succ, Resample.walk, carries.advance, ih]; rfl

theorem resample (x : ℝ) (n : ℕ) {count : ℕ} (several : 2 ≤ count) :
    resample (.replicate (n + 2) (f x)) (.replicate (n + 1) (f 0)) count =
      .ok (.replicate count (f x)) := by
  have zero : Scalar.isZero (f 0) = true := by
    rw [carries.isZero]
    exact decide_eq_true rfl
  have fewer : ¬(count : ℤ) < 2 := by omega
  rw [GestureLexicon.resample, dif_neg (by simp), if_neg (by simp), if_neg fewer]
  simp only [Resample.places, Int.toNat_natCast, carries.pairwiseSum_zeros,
    carries.targets several, carries.walk, List.map_replicate]
  simp [Resample.valueAt, zero]

theorem scales_ofNamed (named : NamedWavelet) : (Wavelet.ofNamed named : Wavelet α).scales =
    (Wavelet.ofNamed named : Wavelet ℝ).scales.map f := by
  have root : (Scalar.sqrt (Scalar.ofNat 2) : ℝ) ≠ 0 := by simp [Scalar.sqrt, Scalar.ofNat]
  have fourRoots : (Scalar.ofNat 4 * Scalar.sqrt (Scalar.ofNat 2) : ℝ) ≠ 0 :=
    mul_ne_zero (by simp [Scalar.ofNat]) root
  have many : (Scalar.ofNat 32 : ℝ) ≠ 0 := by simp [Scalar.ofNat]
  cases named with
  | haar =>
    simp only [Wavelet.ofNamed, Wavelet.haar, List.map_cons, List.map_nil, carries.div _ _ root,
      carries.ofNat, carries.sqrt]
  | daubechies4 =>
    simp only [Wavelet.ofNamed, Wavelet.daubechies4, List.map_cons, List.map_nil,
      carries.div _ _ fourRoots, carries.ofNat, carries.sqrt, carries.add, carries.sub, carries.mul]
  | coiflet6 =>
    simp only [Wavelet.ofNamed, Wavelet.coiflet6, List.map_cons, List.map_nil,
      carries.div _ _ many, carries.ofNat, carries.sqrt, carries.add, carries.sub, carries.mul]

end CarriesReals

theorem Wavelet.alternatingSum_ofNamed (named : NamedWavelet) :
    (ofNamed named : Wavelet ℝ).scales.alternatingSum = 0 := by
  cases named with
  | haar => simp [ofNamed, haar]
  | daubechies4 =>
    simp [ofNamed, daubechies4, Scalar.ofNat]
    ring
  | coiflet6 =>
    simp [ofNamed, coiflet6, Scalar.ofNat]
    ring

namespace Extractor

theorem forward_resting {e : Extractor κ} {f : ℝ → α} (carries : CarriesReals f)
    (byLevels : e.features.transform ≠ .filter) (c : ℝ) :
    (e.features.buildTransform : Transform α).forward
        (.replicate e.resampling.sampleCount (f c)) (e.features.level.map Int.ofNat) =
      .ok ((e.settledParts c).map f) := by
  have bounds := e.resampling.bounds
  have built : ∃ t ∈ [Transform.pyramid (.ofNamed e.features.wavelet : Wavelet α),
      .packet (.ofNamed e.features.wavelet)], e.features.buildTransform = .decomposed t := by
    rw [FeatureSettings.buildTransform]
    cases kind : e.features.transform with
    | pyramid => exact ⟨_, by simp, rfl⟩
    | packet => exact ⟨_, by simp, rfl⟩
    | filter => exact absurd kind byLevels
  obtain ⟨t, member, built⟩ := built
  rw [built]
  exact Transform.forward_constant_decomposed carries.toCarries
    (carries.scales_ofNamed e.features.wavelet)
    (Wavelet.alternatingSum_ofNamed e.features.wavelet) member (by omega) _ c

variable [Embeds κ α]

/-- A word whose path stands at a key: its points and segments, the distances that it is sampled at,
its samples, and what becomes of these. -/
structure Rests (f : ℝ → α) (e : Extractor κ) (word : String) (k : ℕ) (x y : ℝ) : Prop where
  path : e.path word =
    .ok ⟨.replicate k (f x), .replicate k (f y), .replicate (k - 1) (f 0)⟩
  targets : Resample.targets (Path.totalLength (.replicate (k - 1) (f 0)))
    e.resampling.sampleCount = .replicate e.resampling.sampleCount (f 0)
  samples : e.resampledPath word =
    .ok (.replicate e.resampling.sampleCount (f x), .replicate e.resampling.sampleCount (f y))
  parts : ∀ (v : Wavelet α) (w : Wavelet ℝ), v.scales = w.scales.map f →
    w.scales.alternatingSum = 0 → ∀ t ∈ [Transform.pyramid v, .packet v], ∀ (level : Option ℤ),
      ∀ c ∈ [x, y], (Transform.decomposed t).forward
        (.replicate e.resampling.sampleCount (f c)) level =
          .ok (((Multipliers.parts e.resampling.sampleCount).flatMap fun part =>
            w.settled level c part.2).map f)
  named : ∀ named, (Wavelet.ofNamed named : Wavelet α).scales =
    (Wavelet.ofNamed named : Wavelet ℝ).scales.map f
  vector : e.features.transform ≠ .filter →
    e.extract word = .ok ⟨(0 :: (e.resting x ++ e.resting y)).map f⟩

section
variable {e : Extractor κ} {f : ℝ → α} (carries : CarriesReals f) {word : String} {letter : Char}
  {k : ℕ} (spelled : Word.letters word = .replicate k letter) (several : 2 ≤ k) {centre : Point κ}
  (placed : e.centre? letter = some centre) {x y : ℝ}
  (readX : Embeds.embed centre.x = some (f x)) (readY : Embeds.embed centre.y = some (f y))
include carries spelled several placed readX readY

theorem path_repeated :
    e.path word = .ok ⟨.replicate k (f x), .replicate k (f y), .replicate (k - 1) (f 0)⟩ := by
  obtain ⟨n, rfl⟩ : ∃ n, k = n + 1 := Nat.exists_eq_add_of_le' (by omega)
  have read {c : κ} {value : α} (found : Embeds.embed c = some value) :
      (embed c : Except RangeError α) = .ok value := by rw [embed, found]
  have located : Path.coordinates (List.replicate (n + 1) centre) =
      .ok (List.replicate (n + 1) (f x), List.replicate (n + 1) (f y)) := by
    rw [Path.coordinates, List.map_replicate, List.map_replicate, embedAll, embedAll,
      mapM_replicate (read readX), mapM_replicate (read readY)]
    rfl
  exact path_eq (corners_repeated spelled several placed) located (carries.segmentLengths x y n)

theorem resampledPath_repeated : e.resampledPath word =
    .ok (.replicate e.resampling.sampleCount (f x), .replicate e.resampling.sampleCount (f y)) := by
  have path := path_repeated carries spelled several placed readX readY
  obtain ⟨n, rfl⟩ : ∃ n, k = n + 2 := Nat.exists_eq_add_of_le' several
  exact resampledPath_eq path (carries.resample x n e.resampling.bounds.1)
    (carries.resample y n e.resampling.bounds.1)

theorem rests : e.Rests f word k x y := by
  have path := path_repeated carries spelled several placed readX readY
  have samples := resampledPath_repeated carries spelled several placed readX readY
  have bounds := e.resampling.bounds
  refine ⟨path, ?_, samples, ?_, carries.scales_ofNamed, fun byLevels => ?_⟩
  · rw [Path.totalLength, carries.pairwiseSum_zeros]
    exact carries.targets bounds.1
  · exact fun v w image flat t member level c _ =>
      Transform.forward_constant_decomposed carries.toCarries image flat member (by omega) level c
  · have sent := forward_resting carries byLevels
    have fits := e.fits
    have enough (c : ℝ) :
        e.features.coefficientCount ≤ ((e.settledParts c).map f).length := by
      rw [List.length_map, length_settledParts]
      exact fits
    rw [extract, samples]
    refine (e.vector_eq (sent x) (sent y) (enough x) (enough y)).trans ?_
    rw [List.map_cons, List.map_append, resting, resting, List.map_take, List.map_take,
      carries.zero]

end

/-- A constant signal of a power-of-two length settles on its leading band, by as many powers of the
sum of the coefficients as there are passes. A word that repeats one key has constant signals, so
its coefficients are those in each part, and in numbers that watch for a division by zero they come
out as over the reals. -/
theorem repeated_key :
    (∀ (R : Type) [CommRing R] (w : Wavelet R), w.scales.alternatingSum = 0 →
      ∀ n : ℕ, n.isPowerOfTwo → ∀ (level : Option ℤ) (c : R),
        ∀ t ∈ [Transform.pyramid w, .packet w],
          t.forward (.replicate n c) level = .ok (w.settled level c n)) ∧
    ∀ (κ : Type) [Embeds κ ℝ] (e : Extractor κ) (word : String) (letter : Char) (k : ℕ),
      Word.letters word = .replicate k letter → 2 ≤ k →
        ∀ (centre : Point κ) (x y : ℝ), e.centre? letter = some centre →
          Embeds.embed centre.x = some x → Embeds.embed centre.y = some y →
            e.Rests id word k x y ∧ e.Rests Watched.number word k x y := by
  constructor
  · intro R _ w flat n power level c t member
    have sent := Transform.forward_constant carries_id (List.map_id w.scales).symm flat member
      power level c
    rwa [List.map_id] at sent
  · intro κ _ e word letter k spelled several centre x y placed readX readY
    exact ⟨rests carriesReals_id spelled several placed readX readY,
      rests carriesReals_number spelled several placed (congrArg (Option.map _) readX)
        (congrArg (Option.map _) readY)⟩

/-- Two of the three passes over eight entries, and a key that is met twice. -/
theorem repeated_key_twice :
    let w : Wavelet ℤ := ⟨none, [1, 1], le_rfl, rfl⟩
    let e : Extractor ℝ :=
      ⟨⟨⟨[("a", ⟨3, 4⟩), ("b", ⟨5, 6⟩)], by simp⟩, 1, 1⟩, .default, .default, by decide⟩
    w.scales.alternatingSum = 0 ∧ (8 : ℕ).isPowerOfTwo ∧
      (Transform.packet w).forward (.replicate 8 5) (some 2) = .ok [20, 20, 0, 0, 0, 0, 0, 0] ∧
      Word.letters "a-A" = .replicate 2 'a' ∧ e.centre? 'a' = some ⟨3, 4⟩ ∧
      e.Rests id "a-A" 2 3 4 ∧ e.Rests Watched.number "a-A" 2 3 4 := by
  intro w e
  have flat : w.scales.alternatingSum = 0 := by decide
  have settled : w.settled (some 2) 5 8 = [20, 20, 0, 0, 0, 0, 0, 0] := by decide +kernel
  have sent := repeated_key.1 ℤ w flat 8 ⟨3, rfl⟩ (some 2) 5 (.packet w) (by simp)
  rw [settled] at sent
  have spelled : Word.letters "a-A" = .replicate 2 'a' := rfl
  have placed : e.centre? 'a' = some ⟨3, 4⟩ := rfl
  exact ⟨flat, ⟨3, rfl⟩, sent, spelled, placed,
    repeated_key.2 ℝ e "a-A" 'a' 2 spelled le_rfl ⟨3, 4⟩ 3 4 placed rfl rfl⟩

end Extractor

end GestureLexicon
