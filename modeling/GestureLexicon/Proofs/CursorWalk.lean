import GestureLexicon.Proofs.WordPath

/-!
The walk of the cursor in any arithmetic. Nothing is assumed of sums, products and comparisons, so
lengths may be negative or no numbers. The cursor still goes through the segments once, from sample
to sample, and stands where the lengths and the number of samples say, whatever is read there. Main
statement: `Resample.cursor_walks_once`.
-/

namespace GestureLexicon
variable {κ α : Type}

namespace Resample

section
variable [Add α] [Scalar α] {lengths : List α} {target : α} {count : ℕ} {c d : Cursor α}

theorem advance_of_ends {lengths : Array α} (within : c.segment < lengths.size)
    (ends : Scalar.less (c.offset + lengths[c.segment]) target = true) :
    c.advance lengths target =
      Cursor.advance lengths target ⟨c.segment + 1, c.offset + lengths[c.segment]⟩ := by
  rw [Cursor.advance, dif_pos within]
  exact if_pos ends

theorem advance_of_stays {lengths : Array α}
    (stays : ∀ within : c.segment < lengths.size,
      ¬Scalar.less (c.offset + lengths[c.segment]) target = true) :
    c.advance lengths target = c := by
  by_cases within : c.segment < lengths.size
  · rw [Cursor.advance, dif_pos within]
    exact if_neg (stays within)
  · rw [Cursor.advance, dif_neg within]

/-- A cursor that passes a number of segments one after another, all of which end before a target,
and stops in front of the first one that does not, or behind the last one. -/
inductive Passes (lengths : List α) (target : α) : ℕ → Cursor α → Cursor α → Prop
  | stops {c : Cursor α} (stays : ∀ within : c.segment < lengths.length,
      ¬Scalar.less (c.offset + lengths[c.segment]) target = true) : Passes lengths target 0 c c
  | passes {count : ℕ} {c d : Cursor α} (within : c.segment < lengths.length)
      (ends : Scalar.less (c.offset + lengths[c.segment]) target = true)
      (rest : Passes lengths target count ⟨c.segment + 1, c.offset + lengths[c.segment]⟩ d) :
      Passes lengths target (count + 1) c d

theorem exists_passes (lengths : List α) (target : α) (c : Cursor α) :
    ∃ count, Passes lengths target count c (c.advance lengths.toArray target) := by
  induction c using Cursor.advance.induct lengths.toArray target with
  | case1 c within next ends ih =>
    obtain ⟨count, rest⟩ := ih
    rw [advance_of_ends within ends]
    exact ⟨count + 1, .passes within ends rest⟩
  | case2 c within next stays =>
    rw [advance_of_stays fun _ => stays]
    exact ⟨0, .stops fun _ => stays⟩
  | case3 c past =>
    rw [advance_of_stays fun within => absurd within past]
    exact ⟨0, .stops fun within => absurd within past⟩

theorem Passes.segment_eq (passes : Passes lengths target count c d) :
    d.segment = c.segment + count := by
  induction passes with
  | stops => rfl
  | passes _ _ _ ih => rw [ih, Nat.add_right_comm, Nat.add_assoc]

theorem Passes.within (passes : Passes lengths target count c d)
    (within : c.segment ≤ lengths.length) : d.segment ≤ lengths.length := by
  induction passes with
  | stops => exact within
  | passes next _ _ ih => exact ih next

variable [Zero α] [Mul α] [Div α]

def targetOf (lengths : List α) (count i : ℕ) : α :=
  Scalar.ofNat i * pairwiseSum lengths / Scalar.ofNat (count - 1)

def cursorAfter (lengths : List α) (count : ℕ) : ℕ → Cursor α
  | 0 => ⟨0, 0⟩
  | i + 1 => (cursorAfter lengths count i).advance lengths.toArray (targetOf lengths count i)

theorem walk_range' (lengths : List α) (count start more : ℕ) :
    walk lengths.toArray ((List.range' start more).map (targetOf lengths count))
        (cursorAfter lengths count start) =
      (List.range' start more).map fun i =>
        (targetOf lengths count i, cursorAfter lengths count (i + 1)) := by
  -- The induction is on the samples that are left, since the walk starts anew from each cursor.
  induction more generalizing start with
  | zero => rfl
  | succ more ih =>
    rw [List.range'_succ, List.map_cons, List.map_cons, ← ih (start + 1)]
    rfl

/-- Each sample is read where the cursor has come to for it. -/
theorem places_eq (lengths : List α) (count : ℕ) :
    places lengths count = (List.range count).map fun i =>
      (targetOf lengths count i, cursorAfter lengths count (i + 1)) := by
  rw [places, targets, List.range_eq_range']
  exact walk_range' lengths count 0 count

/-- From sample to sample the cursor only goes on, and over a run it passes no segment twice. -/
theorem exists_walk (lengths : List α) (count : ℕ) :
    ∃ passed : ℕ → ℕ,
      (∀ i, Passes lengths (targetOf lengths count i) (passed i) (cursorAfter lengths count i)
        (cursorAfter lengths count (i + 1))) ∧
      ∀ i, (cursorAfter lengths count i).segment = ∑ k ∈ Finset.range i, passed k ∧
        (cursorAfter lengths count i).segment ≤ lengths.length := by
  -- That a segment is passed is all that moves the cursor, so the passes add up to where it stands.
  choose passed passes using fun i =>
    exists_passes lengths (targetOf lengths count i) (cursorAfter lengths count i)
  refine ⟨passed, passes, fun i => ?_⟩
  induction i with
  | zero => exact ⟨rfl, Nat.zero_le _⟩
  | succ i ih =>
    obtain ⟨counted, within⟩ := ih
    rw [Finset.sum_range_succ, ← counted]
    exact ⟨(passes i).segment_eq, (passes i).within within⟩

end

section
variable [Add α] [Sub α] [Mul α] [Div α] [Scalar α] {values lengths samples : List α} {count : ℤ}

/-- What is read at a cursor. Behind the last segment that is the last value, on a segment without
length its end, and elsewhere a value between the ends of the segment, which takes a division by its
length. -/
inductive ReadAt (values lengths : List α) (target : α) (c : Cursor α) : α → Prop
  | past (past : c.segment = lengths.length) (nonempty : values ≠ []) :
    ReadAt values lengths target c (values.getLast nonempty)
  | flat (within : c.segment < lengths.length) (ends : c.segment + 1 < values.length)
    (flat : Scalar.isZero lengths[c.segment] = true) :
    ReadAt values lengths target c values[c.segment + 1]
  | between (within : c.segment < lengths.length) (ends : c.segment + 1 < values.length)
    (long : ¬Scalar.isZero lengths[c.segment] = true) :
    ReadAt values lengths target c (values[c.segment] +
      (values[c.segment + 1] - values[c.segment]) * ((target - c.offset) / lengths[c.segment]))

theorem readAt_valueAt (nonempty : values ≠ []) (matched : lengths.length = values.length - 1)
    (target : α) {c : Cursor α} (within : c.segment ≤ lengths.length) :
    ReadAt values lengths target c
      (valueAt lengths.toArray values.toArray (values.getLast nonempty) target c) := by
  unfold valueAt
  rcases within.eq_or_lt with past | within
  · have absent : lengths.toArray[c.segment]? = none := by simp [past]
    rw [absent]
    exact .past past nonempty
  · have ends : c.segment + 1 < values.length := by omega
    have start : c.segment < values.length := by omega
    simp only [List.getElem?_toArray, List.getElem?_eq_getElem within,
      List.getElem?_eq_getElem ends, List.getElem?_eq_getElem start]
    split_ifs with zero
    · exact .flat within ends zero
    · exact .between within ends zero

variable [Zero α]

/-- Samples that are read one by one where the cursor has come to. -/
structure ReadAlong (values lengths : List α) (count : ℕ) (samples : List α) : Prop where
  length : samples.length = count
  each : ∀ (i : ℕ) (below : i < samples.length), ReadAt values lengths (targetOf lengths count i)
    (cursorAfter lengths count (i + 1)) samples[i]

theorem readAlong_of_resample (sent : resample values lengths count = .ok samples) :
    ReadAlong values lengths count.toNat samples := by
  unfold resample at sent
  split at sent
  next => exact nomatch sent
  next several =>
    split_ifs at sent with mismatch few
    obtain rfl := Except.ok.inj sent
    obtain ⟨_, _, inside⟩ := exists_walk lengths count.toNat
    rw [places_eq]
    constructor
    case length => simp
    case each =>
      intro i below
      simp only [List.getElem_map, List.getElem_range]
      exact readAt_valueAt _ (not_not.mp mismatch) _ (inside (i + 1)).2

theorem resampleInRoom_eq (several : 2 ≤ values.length)
    (matched : lengths.length = values.length - 1) (count : ℤ) :
    resampleInRoom values lengths count =
      if mostHeld < count then .error (.tooManyTargets count)
      else resample values lengths count := by
  obtain ⟨pair, sent, _⟩ := resample_ok several matched le_rfl
  rw [Nat.cast_ofNat] at sent
  unfold resampleInRoom
  split
  · rw [sent]
    rfl
  · rfl

/-- There is no room for as many samples as take `2 ^ 63` bytes. -/
theorem no_samples_without_room :
    let values : List Float := [5, 5]
    let lengths : List Float := [0]
    let count : ℤ := 2 ^ 60
    2 ≤ values.length ∧ lengths.length = values.length - 1 ∧ 2 ≤ count ∧
      resampleInRoom values lengths count = .error (.tooManyTargets count) ∧
      ¬∃ samples, resampleInRoom values lengths count = .ok samples ∧
        samples.length = count.toNat := by
  intro values lengths count
  have refused : resampleInRoom values lengths count = .error (.tooManyTargets count) := by
    rw [resampleInRoom_eq le_rfl rfl]
    exact if_pos (by decide)
  refine ⟨le_rfl, rfl, by decide, refused, ?_⟩
  rintro ⟨samples, sent, _⟩
  exact nomatch refused.symm.trans sent

/-- Values that pass the checks are resampled to as many as are asked for, if there is room for so
many. In all, the cursor passes no more segments than there are, it never goes back, and it reads
nothing but values and lengths there are and divides by none of the lengths that are zero. Where it
stands for a sample does not depend on the values, so both axes of a word are read in step. -/
theorem cursor_walks_once [Embeds κ α] (several : 2 ≤ values.length)
    (matched : lengths.length = values.length - 1) (asked : 2 ≤ count) :
    let cursor := cursorAfter lengths count.toNat
    (∃ passed : ℕ → ℕ,
      (∀ i, Passes lengths (targetOf lengths count.toNat i) (passed i) (cursor i)
        (cursor (i + 1))) ∧
      ∑ i ∈ Finset.range count.toNat, passed i ≤ lengths.length) ∧
    Monotone (fun i => (cursor i).segment) ∧
    (∃ samples, resample values lengths count = .ok samples ∧
      ReadAlong values lengths count.toNat samples ∧
      resampleInRoom values lengths count =
        if mostHeld < count then .error (.tooManyTargets count) else .ok samples) ∧
    ∀ (e : Extractor κ) (word : String) (p : WordPath α), e.path word = .ok p →
      ∃ xs ys, e.resampledPath word = .ok (xs, ys) ∧
        ReadAlong p.xs p.lengths e.resampling.sampleCount xs ∧
        ReadAlong p.ys p.lengths e.resampling.sampleCount ys := by
  intro cursor
  obtain ⟨passed, passes, counted⟩ := exists_walk lengths count.toNat
  have total := counted count.toNat
  have onward (i : ℕ) : (cursor i).segment ≤ (cursor (i + 1)).segment := by
    rw [(passes i).segment_eq]
    exact Nat.le_add_right _ _
  obtain ⟨samples, sent, _⟩ := resample_ok several matched (Int.toNat_le_toNat asked)
  rw [Int.toNat_of_nonneg (by omega)] at sent
  refine ⟨⟨passed, passes, total.1 ▸ total.2⟩, monotone_nat_of_le_succ onward,
    ⟨samples, sent, readAlong_of_resample sent, ?_⟩, fun e word p read => ?_⟩
  · rw [resampleInRoom_eq several matched, sent]
  · obtain ⟨xs, ys, sampledX, sampledY, sampled⟩ := Extractor.resampledPath_of_path read
    exact ⟨xs, ys, sampled, readAlong_of_resample sampledX, readAlong_of_resample sampledY⟩

/-- Lengths that are no number and negative, and the word of two keys. -/
theorem cursor_walks_once_no_number :
    let values : List Float := [5, 6, 7]
    let lengths : List Float := [0 / 0, -1]
    let e : Extractor Coordinate :=
      ⟨⟨⟨[("a", ⟨.real 0, .real 0⟩), ("b", ⟨.real 3, .real 4⟩)], by decide⟩, .real 1, .real 1⟩,
        .default, .default, by decide⟩
    2 ≤ values.length ∧ lengths.length = values.length - 1 ∧ (2 : ℤ) ≤ 3 ∧
      (∃ samples, resample values lengths 3 = .ok samples ∧ ReadAlong values lengths 3 samples ∧
        resampleInRoom values lengths 3 = .ok samples) ∧
      ∃ p : WordPath Float, e.path "ab" = .ok p ∧ ∃ xs ys, e.resampledPath "ab" = .ok (xs, ys) ∧
        ReadAlong p.xs p.lengths 64 xs ∧ ReadAlong p.ys p.lengths 64 ys := by
  intro values lengths e
  have embedded : e.layout.Embedded Float := by
    intro entry member
    rcases List.mem_pair.mp member with rfl | rfl <;> exact ⟨rfl, rfl⟩
  have spelled : Word.letters "ab" = ['a', 'b'] := rfl
  have mapped : ∀ letter ∈ Word.letters "ab", (e.centre? letter).isSome := by
    rw [spelled]
    simp only [List.forall_mem_cons]
    exact ⟨rfl, rfl, nofun⟩
  have several : 2 ≤ values.length := by decide
  have matched : lengths.length = values.length - 1 := rfl
  have asked : (2 : ℤ) ≤ 3 := by decide
  obtain ⟨_, _, ⟨samples, sent, along, roomy⟩, words⟩ :=
    cursor_walks_once (κ := Coordinate) several matched asked
  obtain ⟨p, read⟩ := e.path_ok "ab" embedded (spelled ▸ le_rfl) mapped
  rw [if_neg (by decide)] at roomy
  exact ⟨several, matched, asked, ⟨samples, sent, along, roomy⟩, p, read, words e "ab" p read⟩

end

end Resample

end GestureLexicon
