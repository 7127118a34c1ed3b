import GestureLexicon.Proofs.Spelling

/-!
Paths with points that change nothing. A point put on a segment, at an end of it or between, leaves
every distance with its value, and so does a point that is there twice. So the samples of a word are
those of any word that repeats its letters in other places. Main statement:
`samples_with_added_points`.
-/

namespace GestureLexicon

/-- Segments without length join equal values. -/
def Connected (values lengths : List ℝ) : Prop :=
  List.Forall₂ (fun step length => length = 0 → step = 0) (Path.steps values) lengths

theorem exists_rate {steps lengths : List ℝ} (lasting : ∀ length ∈ lengths, 0 ≤ length)
    (joined : List.Forall₂ (fun step length => length = 0 → step = 0) steps lengths) :
    ∃ rate, 0 ≤ rate ∧ ∀ more, rate ≤ more →
      List.Forall₂ (fun step length => |step| ≤ more * length) steps lengths := by
  induction joined with
  | nil => exact ⟨0, le_rfl, fun _ _ => .nil⟩
  | @cons step length steps lengths still _ ih =>
    obtain ⟨long, lasting⟩ := List.forall_mem_cons.mp lasting
    obtain ⟨rate, positive, rest⟩ := ih lasting
    refine ⟨max rate (|step| / length), le_max_of_le_left positive, fun more steeper => ?_⟩
    obtain ⟨others, own⟩ := max_le_iff.mp steeper
    refine .cons ?_ (rest more others)
    calc |step|
      _ = |step| / length * length := by
        rw [div_mul_cancel_of_imp fun zero => by rw [still zero, abs_zero]]
      _ ≤ more * length := mul_le_mul_of_nonneg_right own long

theorem Connected.exists_gentle {values lengths : List ℝ} (connected : Connected values lengths)
    (lasting : ∀ length ∈ lengths, 0 ≤ length) :
    ∃ rate, 0 ≤ rate ∧ OnPath.Gentle rate values lengths := by
  obtain ⟨rate, positive, gentle⟩ := exists_rate lasting connected
  exact ⟨rate, positive, gentle rate le_rfl⟩

/-- The same path with one more point on one of its segments, in some share of it. -/
inductive PointAdded : (values lengths values' lengths' : List ℝ) → Prop
  | here {a b length share : ℝ} {values lengths : List ℝ} (least : 0 ≤ share) (most : share ≤ 1) :
    PointAdded (a :: b :: values) (length :: lengths)
      (a :: (a + share * (b - a)) :: b :: values)
      (share * length :: (1 - share) * length :: lengths)
  | later {a b length : ℝ} {values lengths values' lengths' : List ℝ}
    (rest : PointAdded (b :: values) lengths (b :: values') lengths') :
    PointAdded (a :: b :: values) (length :: lengths) (a :: b :: values') (length :: lengths')

namespace PointAdded
variable {values lengths values' lengths' : List ℝ}

theorem lengths_eq (added : PointAdded values lengths values' lengths') :
    values'.length = values.length + 1 ∧ lengths'.length = lengths.length + 1 ∧
      lengths'.sum = lengths.sum := by
  induction added with
  | here => exact ⟨rfl, rfl, by simp only [List.sum_cons]; ring⟩
  | later _ ih =>
    obtain ⟨points, segments, total⟩ := ih
    simp only [List.length_cons, List.sum_cons] at points segments total ⊢
    exact ⟨by omega, by omega, by rw [total]⟩

theorem lasting (added : PointAdded values lengths values' lengths')
    (lasting : ∀ length ∈ lengths, 0 ≤ length) : ∀ length ∈ lengths', 0 ≤ length := by
  induction added with
  | here least most =>
    simp only [List.forall_mem_cons] at lasting ⊢
    obtain ⟨long, rest⟩ := lasting
    exact ⟨mul_nonneg least long, mul_nonneg (sub_nonneg.mpr most) long, rest⟩
  | later _ ih =>
    rw [List.forall_mem_cons] at lasting ⊢
    exact ⟨lasting.1, ih lasting.2⟩

theorem gentle {rate : ℝ} (added : PointAdded values lengths values' lengths')
    (gentle : OnPath.Gentle rate values lengths) : OnPath.Gentle rate values' lengths' := by
  induction added with
  | @here a b length share values lengths least most =>
    rw [OnPath.gentle_cons] at gentle
    obtain ⟨bound, rest⟩ := gentle
    have left : 0 ≤ 1 - share := sub_nonneg.mpr most
    rw [OnPath.gentle_cons, OnPath.gentle_cons]
    refine ⟨?_, ?_, rest⟩
    · rw [add_sub_cancel_left, abs_mul, abs_of_nonneg least, mul_left_comm]
      gcongr
    · rw [show b - (a + share * (b - a)) = (1 - share) * (b - a) by ring, abs_mul,
        abs_of_nonneg left, mul_left_comm]
      gcongr
  | later _ ih =>
    rw [OnPath.gentle_cons] at gentle ⊢
    exact ⟨gentle.1, ih gentle.2⟩

theorem onPath {d v : ℝ} (added : PointAdded values lengths values' lengths')
    (on : OnPath values lengths d v) : OnPath values' lengths' d v := by
  induction added generalizing d v with
  | @here a b length share values lengths least most =>
    cases on with
    | @here _ _ _ other _ _ positive below =>
      rcases le_or_gt other share with early | late
      · -- The value lies before the added point, unless both are the start of the segment.
        have part : other / share * share = other :=
          div_mul_cancel_of_imp fun zero => le_antisymm (zero ▸ early) positive
        have found : OnPath (a :: (a + share * (b - a)) :: b :: values)
            (share * length :: (1 - share) * length :: lengths) (other / share * (share * length))
            (a + other / share * (a + share * (b - a) - a)) :=
          .here (div_nonneg positive least) (div_le_one_of_le₀ early least)
        rwa [add_sub_cancel_left, ← mul_assoc, ← mul_assoc, part] at found
      · have left : 0 < 1 - share := by linarith
        have part : (other - share) / (1 - share) * (1 - share) = other - share :=
          div_mul_cancel₀ _ left.ne'
        have found : OnPath (a :: (a + share * (b - a)) :: b :: values)
            (share * length :: (1 - share) * length :: lengths)
            (share * length + (other - share) / (1 - share) * ((1 - share) * length))
            (a + share * (b - a) + (other - share) / (1 - share) * (b - (a + share * (b - a)))) :=
          .later (.here (div_nonneg (sub_nonneg.mpr late.le) left.le)
            (div_le_one_of_le₀ (by linarith) left.le))
        rw [show b - (a + share * (b - a)) = (1 - share) * (b - a) by ring, ← mul_assoc,
          ← mul_assoc, part] at found
        convert found using 1 <;> ring
    | @later _ _ _ distance _ _ _ rest =>
      have total : length + distance = share * length + ((1 - share) * length + distance) := by ring
      rw [total]
      exact .later (.later rest)
  | later _ ih =>
    cases on with
    | here positive below => exact .here positive below
    | later rest => exact .later (ih rest)

theorem after {before beforeLengths : List ℝ} {a : ℝ}
    (added : PointAdded (a :: values) lengths (a :: values') lengths')
    (matched : before.length = beforeLengths.length) :
    PointAdded (before ++ a :: values) (beforeLengths ++ lengths) (before ++ a :: values')
      (beforeLengths ++ lengths') := by
  induction before generalizing beforeLengths with
  | nil =>
    obtain rfl : beforeLengths = [] := List.length_eq_zero_iff.mp matched.symm
    exact added
  | cons first before ih =>
    obtain ⟨length, beforeLengths, rfl⟩ := List.exists_cons_of_length_eq_add_one matched.symm
    have rest := ih (Nat.succ.inj matched)
    cases before with
    | nil => exact .later rest
    | cons second before => exact .later rest

theorem cut {a b v first second : ℝ} (least : 0 ≤ first) (most : 0 ≤ second)
    (between : first + second ≠ 0 → v = a + (b - a) * first / (first + second))
    (standing : first + second = 0 → v = a) (values lengths : List ℝ) :
    PointAdded (a :: b :: values) ((first + second) :: lengths) (a :: v :: b :: values)
      (first :: second :: lengths) := by
  have whole : 0 ≤ first + second := add_nonneg least most
  have share : first / (first + second) * (first + second) = first :=
    div_mul_cancel_of_imp fun zero => by linarith
  have left : (1 - first / (first + second)) * (first + second) = second := by
    rw [sub_mul, share]
    ring
  have value : v = a + first / (first + second) * (b - a) := by
    by_cases zero : first + second = 0
    · rw [standing zero, zero, div_zero, zero_mul, add_zero]
    · rw [between zero]
      ring
  have added : PointAdded (a :: b :: values) ((first + second) :: lengths) _ _ :=
    .here (div_nonneg least whole) (div_le_one_of_le₀ (le_add_of_nonneg_right most) whole)
  rwa [share, left, ← value] at added

/-- A path with a point added has the same samples. -/
theorem resample_eq {samples : List ℝ} {count : ℕ}
    (added : PointAdded values lengths values' lengths') (connected : Connected values lengths)
    (lasting : ∀ length ∈ lengths, 0 ≤ length)
    (sent : resample values lengths count = .ok samples) :
    resample values' lengths' count = .ok samples := by
  obtain ⟨matched, _, several, on⟩ := resample_onPath lasting sent
  obtain ⟨rate, positive, gentle⟩ := connected.exists_gentle lasting
  obtain ⟨points, segments, total⟩ := added.lengths_eq
  refine resample_of_onPath (added.lasting lasting) positive (added.gentle gentle) (by omega)
    (List.ne_nil_of_length_pos (by omega)) several ?_
  rw [total]
  exact on.imp fun _ _ => added.onPath

end PointAdded

/-- A list is another one with entries repeated in their places. -/
inductive Lingers {β : Type} : List β → List β → Prop
  | alone (a : β) : Lingers [a] [a]
  | again {a : β} {l m : List β} (rest : Lingers (a :: l) (a :: m)) : Lingers (a :: a :: l) (a :: m)
  | onward (a : β) {b : β} {l m : List β} (rest : Lingers (b :: l) (b :: m)) :
    Lingers (a :: b :: l) (a :: b :: m)

namespace Lingers
variable {β : Type} {l m : List β}

theorem find?_eq (lingers : Lingers l m) (p : β → Bool) : l.find? p = m.find? p := by
  induction lingers with
  | alone => rfl
  | @again a l m _ ih =>
    rw [List.find?_cons, ih, List.find?_cons]
    cases p a <;> rfl
  | @onward a b l m _ ih =>
    cases wanted : p a with
    | true => rw [List.find?_cons_of_pos wanted, List.find?_cons_of_pos wanted]
    | false =>
      have other : ¬p a = true := by rw [wanted]; exact Bool.false_ne_true
      rw [List.find?_cons_of_neg other, List.find?_cons_of_neg other, ih]

variable [DecidableEq β]

theorem destutter' (a : β) (l : List β) : ∃ m, l.destutter' (· ≠ ·) a = a :: m ∧
    Lingers (a :: l) (a :: m) := by
  induction l generalizing a with
  | nil => exact ⟨[], rfl, .alone a⟩
  | cons b l ih =>
    obtain ⟨m, collapsed, lingers⟩ := ih b
    by_cases same : a = b
    · subst same
      exact ⟨m, by rw [List.destutter'_cons_neg _ (not_not.mpr rfl), collapsed], .again lingers⟩
    · exact ⟨b :: m, by rw [List.destutter'_cons_pos _ same, collapsed], .onward a lingers⟩

theorem destutter (nonempty : l ≠ []) : Lingers l (l.destutter (· ≠ ·)) := by
  obtain ⟨a, l, rfl⟩ := List.exists_cons_of_ne_nil nonempty
  obtain ⟨m, collapsed, lingers⟩ := destutter' a l
  rwa [List.destutter_cons', collapsed]

end Lingers

namespace Path
variable {β : Type} (x y : β → ℝ)

noncomputable def gaps (l : List β) : List ℝ :=
  List.zipWith Scalar.hypot (steps (l.map x)) (steps (l.map y))

theorem gaps_cons_cons (a b : β) (l : List β) :
    gaps x y (a :: b :: l) = Scalar.hypot (x b - x a) (y b - y a) :: gaps x y (b :: l) := rfl

theorem gaps_again (a : β) (l : List β) : gaps x y (a :: a :: l) = 0 :: gaps x y (a :: l) := by
  have zero : (Scalar.hypot (0 : ℝ) 0 : ℝ) = 0 := by
    change Real.sqrt (0 ^ 2 + 0 ^ 2) = 0
    simp
  rw [gaps_cons_cons, sub_self, sub_self, zero]

theorem length_gaps (l : List β) : (gaps x y l).length = l.length - 1 := by
  rw [gaps, List.length_zipWith, length_steps, length_steps, List.length_map, List.length_map,
    min_self]

theorem segmentLengths_map (l : List β) :
    segmentLengths (l.map x) (l.map y) = .ok (gaps x y l) := by
  rw [segmentLengths, if_neg (by rw [List.length_map, List.length_map, not_not])]
  rfl

theorem gentle_gaps (l : List β) : OnPath.Gentle 1 (l.map x) (gaps x y l) ∧
    OnPath.Gentle 1 (l.map y) (gaps x y l) ∧ ∀ length ∈ gaps x y l, 0 ≤ length :=
  gentle_segmentLengths (segmentLengths_map x y l)

theorem sum_gaps_of_lingers {l m : List β} (lingers : Lingers l m) :
    (gaps x y l).sum = (gaps x y m).sum := by
  induction lingers with
  | alone => rfl
  | again _ ih => rw [gaps_again, List.sum_cons, zero_add, ih]
  | onward a _ ih => rw [gaps_cons_cons, gaps_cons_cons, List.sum_cons, List.sum_cons, ih]

end Path

def AtPath (values lengths : List ℝ) (d v : ℝ) : Prop :=
  OnPath values lengths d v ∨ d = 0 ∧ values.head? = some v

namespace AtPath
variable {a b length d v : ℝ} {values lengths values' lengths' : List ℝ}

theorem onPath (at_ : AtPath values lengths d v) (matched : values.length = lengths.length + 1)
    (nonempty : lengths ≠ []) : OnPath values lengths d v := by
  rcases at_ with on | ⟨rfl, first⟩
  · exact on
  · obtain ⟨length, lengths, rfl⟩ := List.exists_cons_of_ne_nil nonempty
    obtain ⟨a, values, rfl⟩ := List.exists_cons_of_length_eq_add_one matched
    obtain ⟨b, values, rfl⟩ := List.exists_cons_of_length_eq_add_one (Nat.succ.inj matched)
    obtain rfl := Option.some.inj first
    have start : OnPath (a :: b :: values) (length :: lengths) (0 * length) (a + 0 * (b - a)) :=
      .here le_rfl zero_le_one
    simpa using start

theorem again_iff : AtPath (a :: a :: values) (0 :: lengths) d v ↔
    AtPath (a :: values) lengths d v := by
  constructor
  · rintro (on | first)
    · cases on with
      | @here _ _ _ share => exact .inr ⟨mul_zero share, by simp⟩
      | @later _ _ _ distance _ _ _ rest =>
        rw [zero_add]
        exact .inl rest
    · exact .inr first
  · rintro (on | first)
    · rw [← zero_add d]
      exact .inl (.later on)
    · exact .inr first

theorem onward (same : ∀ d v, AtPath (b :: values) lengths d v → AtPath (b :: values') lengths' d v)
    (at_ : AtPath (a :: b :: values) (length :: lengths) d v) :
    AtPath (a :: b :: values') (length :: lengths') d v := by
  rcases at_ with on | first
  · cases on with
    | here least most => exact .inl (.here least most)
    | @later _ _ _ distance _ _ _ rest =>
      rcases same _ _ (.inl rest) with on | ⟨rfl, first⟩
      · exact .inl (.later on)
      · obtain rfl := Option.some.inj first
        have last : OnPath (a :: b :: values') (length :: lengths') (1 * length)
            (a + 1 * (b - a)) := .here zero_le_one le_rfl
        refine .inl ?_
        simpa using last
  · exact .inr first

theorem lingers_iff {β : Type} {x y f : β → ℝ} {l m : List β} (lingers : Lingers l m) (d v : ℝ) :
    AtPath (l.map f) (Path.gaps x y l) d v ↔ AtPath (m.map f) (Path.gaps x y m) d v := by
  induction lingers generalizing d v with
  | alone => rfl
  | again _ ih =>
    rw [Path.gaps_again, List.map_cons, List.map_cons, again_iff]
    exact ih d v
  | onward a _ ih =>
    rw [Path.gaps_cons_cons, Path.gaps_cons_cons]
    exact ⟨onward fun d v => (ih d v).mp, onward fun d v => (ih d v).mpr⟩

end AtPath

/-- Two lists of points that linger along the same way have the same samples. -/
theorem resample_of_lingers {β : Type} {x y f : β → ℝ} {l k m : List β} {count : ℕ}
    (lingers : Lingers l m) (lingersAlso : Lingers k m) (severalFrom : 2 ≤ l.length)
    (several : 2 ≤ k.length) (gentle : OnPath.Gentle 1 (k.map f) (Path.gaps x y k))
    (asked : 2 ≤ count) :
    ∃ samples, resample (l.map f) (Path.gaps x y l) count = .ok samples ∧
      resample (k.map f) (Path.gaps x y k) count = .ok samples := by
  have severalValues : 2 ≤ (l.map f).length := by rwa [List.length_map]
  have matchedFrom : (Path.gaps x y l).length = (l.map f).length - 1 := by
    rw [List.length_map, Path.length_gaps]
  obtain ⟨samples, sent, _⟩ := resample_ok severalValues matchedFrom asked
  obtain ⟨_, _, lastingFrom⟩ := Path.gentle_gaps x y l
  obtain ⟨_, _, lasting⟩ := Path.gentle_gaps x y k
  obtain ⟨_, _, _, on⟩ := resample_onPath lastingFrom sent
  have matched : (k.map f).length = (Path.gaps x y k).length + 1 := by
    rw [List.length_map, Path.length_gaps]
    omega
  have nonempty : Path.gaps x y k ≠ [] := by
    apply List.ne_nil_of_length_pos
    rw [Path.length_gaps]
    omega
  refine ⟨samples, sent, resample_of_onPath lasting zero_le_one gentle matched nonempty asked ?_⟩
  rw [Path.sum_gaps_of_lingers x y lingersAlso, ← Path.sum_gaps_of_lingers x y lingers]
  refine on.imp fun d v on => ?_
  have found := (AtPath.lingers_iff lingers d v).mp (.inl on)
  exact ((AtPath.lingers_iff lingersAlso d v).mpr found).onPath matched nonempty

namespace Extractor
variable {e : Extractor ℝ} {u w word : String}

def centreOf (e : Extractor ℝ) (letter : Char) : Point ℝ :=
  (e.centre? letter).getD ⟨0, 0⟩

theorem path_mapped (several : 2 ≤ (Word.letters word).length)
    (mapped : ∀ letter ∈ Word.letters word, (e.centre? letter).isSome) :
    let x letter := (e.centreOf letter).x
    let y letter := (e.centreOf letter).y
    e.path word = .ok ⟨(Word.letters word).map x, (Word.letters word).map y,
      Path.gaps x y (Word.letters word)⟩ := by
  intro x y
  have read : e.points word = .ok ((Word.letters word).map e.centreOf) := by
    rw [points_eq_ok, List.forall₂_map_right_iff, List.forall₂_same]
    intro letter member
    obtain ⟨centre, found⟩ := Option.isSome_iff_exists.mp (mapped letter member)
    rw [centreOf, found]
    rfl
  have placed : e.corners word = .ok ((Word.letters word).map e.centreOf) :=
    corners_eq_ok.mpr ⟨List.ne_nil_of_length_pos (by omega), read, by rwa [List.length_map]⟩
  refine path_eq placed ?_ (Path.segmentLengths_map x y _)
  rw [Path.coordinates_self, List.map_map, List.map_map]
  rfl

theorem resampledPath_unmapped {letter : Char}
    (first : (Word.letters word).find? (fun c => (e.centre? c).isNone) = some letter) :
    (e.resampledPath word : Except _ (List ℝ × List ℝ)) =
      .error (.word ⟨word, .unmapped letter⟩) := by
  obtain ⟨unmapped, before, after, spelled, mapped⟩ := List.find?_eq_some_iff_append.mp first
  have failed : e.corners word = .error ⟨word, .unmapped letter⟩ := by
    refine e.corners_unmapped word spelled (fun c member => ?_)
      (Option.isNone_iff_eq_none.mp unmapped)
    simpa using mapped c member
  rw [resampledPath, path, failed]
  rfl

theorem resampledPath_lingers (severalFrom : 2 ≤ (Word.letters u).length)
    (several : 2 ≤ (Word.letters w).length)
    (same : (Word.letters w).destutter (· ≠ ·) = (Word.letters u).destutter (· ≠ ·)) :
    (e.resampledPath w : Except _ (List ℝ × List ℝ)) =
      (e.resampledPath u).mapError (·.about w) := by
  have lingers : Lingers (Word.letters u) ((Word.letters u).destutter (· ≠ ·)) :=
    .destutter (List.ne_nil_of_length_pos (by omega))
  have lingersAlso : Lingers (Word.letters w) ((Word.letters u).destutter (· ≠ ·)) :=
    same ▸ .destutter (List.ne_nil_of_length_pos (by omega))
  have firsts : (Word.letters w).find? (fun c => (e.centre? c).isNone) =
      (Word.letters u).find? (fun c => (e.centre? c).isNone) :=
    (lingersAlso.find?_eq _).trans (lingers.find?_eq _).symm
  cases first : (Word.letters u).find? (fun c => (e.centre? c).isNone) with
  | some letter =>
    rw [resampledPath_unmapped first, resampledPath_unmapped (firsts.trans first)]
    rfl
  | none =>
    have mapped {word : String}
        (first : (Word.letters word).find? (fun c => (e.centre? c).isNone) = none) :
        ∀ letter ∈ Word.letters word, (e.centre? letter).isSome := by
      simpa [← Option.isSome_iff_ne_none] using first
    let x letter := (e.centreOf letter).x
    let y letter := (e.centreOf letter).y
    obtain ⟨gentleX, gentleY, _⟩ := Path.gentle_gaps x y (Word.letters w)
    obtain ⟨xs, sentX, againX⟩ := resample_of_lingers lingers lingersAlso severalFrom several
      gentleX e.resampling.bounds.1
    obtain ⟨ys, sentY, againY⟩ := resample_of_lingers lingers lingersAlso severalFrom several
      gentleY e.resampling.bounds.1
    have sampledFrom := resampledPath_eq (path_mapped severalFrom (mapped first)) sentX sentY
    have sampled := resampledPath_eq (path_mapped several (mapped (firsts.trans first))) againX
      againY
    rw [sampledFrom, sampled]
    rfl

end Extractor

/-- A point put on a segment of a path changes no sample, also where it stands at an end of the
segment or the segment has no length. So words of two letters or more that are the same with runs of
one letter collapsed have the same samples and the same vector, or fail in the same way, and they
have them on any layout with keys for these letters. -/
theorem samples_with_added_points :
    (∀ (before after beforeLengths afterLengths : List ℝ) (a b v first second : ℝ) (count : ℕ),
      let lengths := beforeLengths ++ (first + second) :: afterLengths
      before.length = beforeLengths.length → Connected (before ++ a :: b :: after) lengths →
      (∀ length ∈ lengths, 0 ≤ length) → 0 ≤ first → 0 ≤ second →
      (first + second ≠ 0 → v = a + (b - a) * first / (first + second)) →
      (first + second = 0 → v = a) → 2 ≤ count →
      ∃ samples, samples.length = count ∧
        resample (before ++ a :: b :: after) lengths count = .ok samples ∧
        resample (before ++ a :: v :: b :: after) (beforeLengths ++ first :: second :: afterLengths)
          count = .ok samples) ∧
    ∀ (e : Extractor ℝ) (u w : String), let letters word := (Word.normalize word).toList
      2 ≤ (letters u).length → 2 ≤ (letters w).length →
      (letters w).destutter (· ≠ ·) = (letters u).destutter (· ≠ ·) →
      (e.resampledPath w : Except _ (List ℝ × List ℝ)) =
        (e.resampledPath u).mapError (·.about w) ∧
      (e.extract w : Except _ (FeatureVector ℝ)) = (e.extract u).mapError (·.about w) ∧
      ((∀ letter ∈ letters u, (e.centre? letter).isSome) →
        ∃ (axes : List ℝ × List ℝ) (v : FeatureVector ℝ),
          e.resampledPath u = .ok axes ∧ e.resampledPath w = .ok axes ∧
          e.extract u = .ok v ∧ e.extract w = .ok v) := by
  refine ⟨?_, ?_⟩
  · intro before after beforeLengths afterLengths a b v first second count lengths matched connected
      lasting least most between standing asked
    have added : PointAdded (before ++ a :: b :: after) lengths (before ++ a :: v :: b :: after)
        (beforeLengths ++ first :: second :: afterLengths) :=
      (PointAdded.cut least most between standing after afterLengths).after matched
    have segments : lengths.length = (before ++ a :: b :: after).length - 1 := by
      rw [← connected.length_eq, Path.length_steps]
    have several : 2 ≤ (before ++ a :: b :: after).length := by
      rw [List.length_append, List.length_cons, List.length_cons]
      omega
    obtain ⟨samples, sent, size⟩ := resample_ok several segments asked
    exact ⟨samples, size, sent, added.resample_eq connected lasting sent⟩
  · intro e u w letters severalFrom several same
    simp only [letters, Word.toList_normalize] at severalFrom several same ⊢
    have sampled := e.resampledPath_lingers severalFrom several same
    have extracted := e.extract_of_resampledPath rfl sampled
    refine ⟨sampled, extracted, fun mapped => ?_⟩
    have embedded : e.layout.Embedded ℝ := fun _ _ => ⟨rfl, rfl⟩
    obtain ⟨axes, sent, _⟩ := e.resampledPath_ok u embedded severalFrom mapped
    obtain ⟨v, found⟩ := e.extract_ok u embedded severalFrom mapped
    rw [sent] at sampled
    rw [found] at extracted
    exact ⟨axes, v, sent, sampled, found, extracted⟩

/-- A point at the start of a segment and one within it, and a word whose letters are repeated. -/
theorem samples_with_added_points_abc :
    let e : Extractor ℝ := ⟨⟨⟨[("a", ⟨0, 0⟩), ("b", ⟨3, 4⟩), ("c", ⟨6, 0⟩)], by simp⟩, 1, 1⟩,
      .default, .default, by decide⟩
    (∃ samples, samples.length = 5 ∧ resample [(2 : ℝ), 0, 4] [2, 4] 5 = .ok samples ∧
      resample [(2 : ℝ), 0, 0, 4] [2, 0, 4] 5 = .ok samples) ∧
    (∃ samples, samples.length = 5 ∧ resample [(2 : ℝ), 0, 4] [2, 4] 5 = .ok samples ∧
      resample [(2 : ℝ), 0, 1, 4] [2, 1, 3] 5 = .ok samples) ∧
    ∃ (axes : List ℝ × List ℝ) (v : FeatureVector ℝ), e.resampledPath "abbc" = .ok axes ∧
      e.resampledPath "Aab-ccc" = .ok axes ∧ e.extract "abbc" = .ok v ∧
      e.extract "Aab-ccc" = .ok v := by
  intro e
  have connected (total : ℝ) (whole : total = 4) : Connected [2, 0, 4] [2, total] := by
    subst whole
    exact .cons (by norm_num) (.cons (by norm_num) .nil)
  have lasting (total : ℝ) (whole : total = 4) : ∀ length ∈ [2, total], 0 ≤ length := by
    subst whole
    simp
  have start : (0 : ℝ) + 4 = 4 := by norm_num
  have within : (1 : ℝ) + 3 = 4 := by norm_num
  have inserted := samples_with_added_points.1 [2] [] [2] [] 0 4
  have atStart := inserted 0 0 4 5 rfl (connected _ start) (lasting _ start) le_rfl (by norm_num)
    (by norm_num) (fun _ => rfl) (by norm_num)
  have between := inserted 1 1 3 5 rfl (connected _ within) (lasting _ within) (by norm_num)
    (by norm_num) (by norm_num) (by norm_num) (by norm_num)
  rw [start] at atStart
  rw [within] at between
  have spelled : (Word.normalize "abbc").toList = ['a', 'b', 'b', 'c'] := Word.toList_normalize _
  have repeated : (Word.normalize "Aab-ccc").toList = ['a', 'a', 'b', 'c', 'c', 'c'] :=
    Word.toList_normalize _
  have repeating := samples_with_added_points.2 e "abbc" "Aab-ccc"
  simp only [spelled, repeated] at repeating
  obtain ⟨_, _, alike⟩ := repeating (by decide) (by decide) (by decide)
  refine ⟨atStart, between, alike ?_⟩
  simp only [List.forall_mem_cons]
  exact ⟨rfl, rfl, rfl, rfl, List.forall_mem_nil _⟩

end GestureLexicon
