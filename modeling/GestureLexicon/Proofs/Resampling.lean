import GestureLexicon.Proofs.CursorWalk
import GestureLexicon.Proofs.NamedWavelets

/-!
Resampling in exact arithmetic. Where the cursor stops depends on the target distance alone and not
on the targets before it, and it never runs past the last segment. So each sample is the value at
its distance along the path; where no segment is steeper than some rate, a distance has one value.
-/

namespace GestureLexicon

section
variable {α : Type} [AddCommMonoid α]

theorem foldl_add (start : α) (xs : List α) : xs.foldl (· + ·) start = start + xs.sum := by
  induction xs generalizing start with
  | nil => simp
  | cons x xs ih => rw [List.foldl_cons, ih, List.sum_cons, add_assoc]

theorem leftSum_eq_sum (xs : List α) : leftSum xs = xs.sum := by
  cases xs with
  | nil => rfl
  | cons x xs => exact (foldl_add x xs).trans List.sum_cons.symm

theorem laneSum_eq_sum (r0 r1 r2 r3 r4 r5 r6 r7 : α) (xs : List α) :
    laneSum r0 r1 r2 r3 r4 r5 r6 r7 xs = [r0, r1, r2, r3, r4, r5, r6, r7].sum + xs.sum := by
  fun_induction laneSum r0 r1 r2 r3 r4 r5 r6 r7 xs with
  | case1 r0 r1 r2 r3 r4 r5 r6 r7 x0 x1 x2 x3 x4 x5 x6 x7 rest ih =>
    rw [ih]
    simp only [List.sum_cons, List.sum_nil]
    abel
  | case2 r0 r1 r2 r3 r4 r5 r6 r7 rest =>
    rw [foldl_add]
    simp only [List.sum_cons, List.sum_nil]
    abel

theorem blockSum_eq_sum (xs : List α) : blockSum xs = xs.sum := by
  fun_cases blockSum xs with
  | case1 x0 x1 x2 x3 x4 x5 x6 x7 rest =>
    rw [laneSum_eq_sum]
    simp only [List.sum_cons, List.sum_nil]
    abel
  | case2 => exact leftSum_eq_sum xs

theorem pairwiseSum_eq_sum (xs : List α) : pairwiseSum xs = xs.sum := by
  fun_induction pairwiseSum xs with
  | case1 xs => exact blockSum_eq_sum xs
  | case2 xs _ cut first second => rw [first, second, List.sum_take_add_sum_drop]

end

namespace Resample
variable {lengths : List ℝ} {target : ℝ} {c : Cursor ℝ}

theorem less_iff (x y : ℝ) : Scalar.less x y = true ↔ x < y :=
  decide_eq_true_iff

/-- A cursor that has passed nothing but segments that end before a target. -/
structure Passed (lengths : List ℝ) (target : ℝ) (c : Cursor ℝ) : Prop where
  within : c.segment ≤ lengths.length
  offset : c.offset = (lengths.take c.segment).sum
  before : ∀ k < c.segment, (lengths.take (k + 1)).sum < target

theorem passed_start (lengths : List ℝ) (target : ℝ) : Passed lengths target ⟨0, 0⟩ :=
  ⟨Nat.zero_le _, rfl, fun _ below => absurd below (Nat.not_lt_zero _)⟩

theorem Passed.next (passed : Passed lengths target c) (within : c.segment < lengths.length)
    (ends : c.offset + lengths[c.segment] < target) :
    Passed lengths target ⟨c.segment + 1, c.offset + lengths[c.segment]⟩ := by
  have total : c.offset + lengths[c.segment] = (lengths.take (c.segment + 1)).sum := by
    rw [passed.offset, List.sum_take_succ]
  refine ⟨within, total, fun k below => ?_⟩
  rcases Nat.lt_succ_iff_lt_or_eq.mp below with earlier | rfl
  · exact passed.before k earlier
  · rwa [← total]

theorem advance_next {lengths : Array ℝ} (within : c.segment < lengths.size)
    (ends : c.offset + lengths[c.segment] < target) :
    c.advance lengths target =
      Cursor.advance lengths target ⟨c.segment + 1, c.offset + lengths[c.segment]⟩ :=
  advance_of_ends within ((less_iff _ _).mpr ends)

theorem advance_stay {lengths : Array ℝ}
    (stays : ∀ within : c.segment < lengths.size, target ≤ c.offset + lengths[c.segment]) :
    c.advance lengths target = c :=
  advance_of_stays fun within ends => ((less_iff _ _).mp ends).not_ge (stays within)

/-- A cursor goes on to the first segment that does not end before the target. -/
theorem Passed.advance (passed : Passed lengths target c) :
    Passed lengths target (c.advance lengths.toArray target) ∧
      ∀ within : (c.advance lengths.toArray target).segment < lengths.length,
        target ≤ (c.advance lengths.toArray target).offset +
          lengths[(c.advance lengths.toArray target).segment] := by
  induction c using Cursor.advance.induct lengths.toArray target with
  | case1 c within next ends ih =>
    have ends := (less_iff _ _).mp ends
    rw [advance_next within ends]
    exact ih (passed.next (by simpa using within) ends)
  | case2 c within next stays =>
    have short := not_lt.mp fun ends => stays ((less_iff _ _).mpr ends)
    rw [advance_stay fun _ => short]
    exact ⟨passed, fun _ => short⟩
  | case3 c past =>
    rw [advance_stay fun within => absurd within past]
    exact ⟨passed, fun within => absurd (by simpa using within) past⟩

theorem advance_advance (lengths : Array ℝ) {near far : ℝ} (ordered : near ≤ far) (c : Cursor ℝ) :
    (c.advance lengths near).advance lengths far = c.advance lengths far := by
  induction c using Cursor.advance.induct lengths near with
  | case1 c within next ends ih =>
    have ends := (less_iff _ _).mp ends
    rw [advance_next within ends, advance_next within (ends.trans_le ordered)]
    exact ih
  | case2 c within next stays =>
    rw [advance_stay fun _ => not_lt.mp fun ends => stays ((less_iff _ _).mpr ends)]
  | case3 c past =>
    have stop : c.advance lengths near = c := advance_stay fun within => absurd within past
    rw [stop]

/-- The cursor finds the place of each target as if it had started for it alone. -/
theorem walk_eq (lengths : Array ℝ) {distances : List ℝ} (ordered : distances.Pairwise (· ≤ ·))
    (c : Cursor ℝ) :
    walk lengths distances c = distances.map fun d => (d, c.advance lengths d) := by
  induction distances generalizing c with
  | nil => rfl
  | cons target rest ih =>
    obtain ⟨first, ordered⟩ := List.pairwise_cons.mp ordered
    rw [walk, ih ordered, List.map_cons]
    congr 1
    refine List.map_congr_left fun d member => ?_
    rw [advance_advance lengths (first d member)]

theorem targets_pairwise {total : ℝ} (positive : 0 ≤ total) (count : ℕ) :
    (targets total count).Pairwise (· ≤ ·) := by
  rw [targets, List.pairwise_map]
  refine List.pairwise_lt_range.imp fun {i j} below => ?_
  have counted : (i : ℝ) ≤ j := Nat.cast_le.mpr below.le
  change (i : ℝ) * total / ((count - 1 : ℕ) : ℝ) ≤ (j : ℝ) * total / ((count - 1 : ℕ) : ℝ)
  gcongr

end Resample

/-- A distance along a path from its first point, and the value there. On a segment without length
stand all values between its ends. -/
inductive OnPath : (values lengths : List ℝ) → (distance value : ℝ) → Prop
  | here {a b length share : ℝ} {values lengths : List ℝ} (least : 0 ≤ share) (most : share ≤ 1) :
    OnPath (a :: b :: values) (length :: lengths) (share * length) (a + share * (b - a))
  | later {a b length distance value : ℝ} {values lengths : List ℝ}
    (rest : OnPath (b :: values) lengths distance value) :
    OnPath (a :: b :: values) (length :: lengths) (length + distance) value

namespace OnPath
variable {values lengths : List ℝ} {d v : ℝ}

theorem of_index (matched : values.length = lengths.length + 1) {k : ℕ}
    (within : k < lengths.length) {share : ℝ} (least : 0 ≤ share) (most : share ≤ 1) :
    OnPath values lengths ((lengths.take k).sum + share * lengths[k])
      (values[k] + share * (values[k + 1] - values[k])) := by
  induction lengths generalizing values k with
  | nil => exact absurd within (Nat.not_lt_zero k)
  | cons length lengths ih =>
    obtain ⟨a, values, rfl⟩ := List.exists_cons_of_length_eq_add_one matched
    obtain ⟨b, values, rfl⟩ := List.exists_cons_of_length_eq_add_one (Nat.succ.inj matched)
    cases k with
    | zero => simpa using OnPath.here least most
    | succ k =>
      have rest : OnPath (a :: b :: values) (length :: lengths) _ _ :=
        .later (ih (Nat.succ.inj matched) (Nat.lt_of_succ_lt_succ within))
      simpa [add_assoc] using rest

theorem extend (on : OnPath values lengths d v) (more moreLengths : List ℝ) :
    OnPath (values ++ more) (lengths ++ moreLengths) d v := by
  induction on with
  | here least most => exact .here least most
  | later _ ih => exact .later ih

theorem prepend {b : ℝ} (on : OnPath (b :: values) lengths d v) {more moreLengths : List ℝ}
    (matched : more.length = moreLengths.length) :
    OnPath (more ++ b :: values) (moreLengths ++ lengths) (moreLengths.sum + d) v := by
  induction more generalizing moreLengths with
  | nil =>
    obtain rfl : moreLengths = [] := List.length_eq_zero_iff.mp matched.symm
    simpa using on
  | cons first more ih =>
    obtain ⟨length, moreLengths, rfl⟩ := List.exists_cons_of_length_eq_add_one matched.symm
    have rest := ih (Nat.succ.inj matched)
    rw [List.sum_cons, add_assoc]
    cases more with
    | nil => exact .later rest
    | cons second more => exact .later rest

/-- Read backwards, a path has the same values at the distances from its end. -/
theorem reverse (on : OnPath values lengths d v) (matched : values.length = lengths.length + 1) :
    OnPath values.reverse lengths.reverse (lengths.sum - d) v := by
  induction on with
  | @here a b length share values lengths least most =>
    have turned : OnPath [b, a] [length] ((1 - share) * length) (b + (1 - share) * (a - b)) :=
      .here (sub_nonneg.mpr most) (sub_le_self 1 least)
    have sizes : values.reverse.length = lengths.reverse.length := by simpa using matched
    have distance : lengths.reverse.sum + (1 - share) * length =
        (length :: lengths).sum - share * length := by
      rw [List.sum_reverse, List.sum_cons]
      ring
    have value : b + (1 - share) * (a - b) = a + share * (b - a) := by ring
    rw [← distance, ← value]
    simpa using turned.prepend sizes
  | @later a b length distance value values lengths _ ih =>
    have rest := (ih (by simpa using matched)).extend [a] [length]
    have apart : (length :: lengths).sum - (length + distance) = lengths.sum - distance := by
      rw [List.sum_cons]
      ring
    rw [apart, List.reverse_cons]
    simpa using rest

/-- No segment is steeper than a rate. -/
def Gentle (rate : ℝ) (values lengths : List ℝ) : Prop :=
  List.Forall₂ (fun step length => |step| ≤ rate * length) (Path.steps values) lengths

theorem gentle_cons {rate a b length : ℝ} :
    Gentle rate (a :: b :: values) (length :: lengths) ↔
      |b - a| ≤ rate * length ∧ Gentle rate (b :: values) lengths := by
  rw [Gentle, Path.steps, List.forall₂_cons]
  rfl

theorem near_first {rate : ℝ} (on : OnPath values lengths d v)
    (gentle : Gentle rate values lengths) : |v - values.headD 0| ≤ rate * d := by
  induction on with
  | @here a b length share values lengths least most =>
    obtain ⟨bound, _⟩ := gentle_cons.mp gentle
    calc |a + share * (b - a) - a|
      _ = share * |b - a| := by rw [add_sub_cancel_left, abs_mul, abs_of_nonneg least]
      _ ≤ share * (rate * length) := by gcongr
      _ = rate * (share * length) := by ring
  | @later a b length distance value values lengths _ ih =>
    obtain ⟨bound, rest⟩ := gentle_cons.mp gentle
    calc |value - a|
      _ ≤ |value - b| + |b - a| := abs_sub_le value b a
      _ ≤ rate * distance + rate * length := add_le_add (ih rest) bound
      _ = rate * (length + distance) := by ring

theorem near_later {a b length share rate u : ℝ} (most : share ≤ 1)
    (gentle : Gentle rate (a :: b :: values) (length :: lengths))
    (later : OnPath (b :: values) lengths d u) :
    |a + share * (b - a) - u| ≤ rate * (length + d - share * length) := by
  obtain ⟨bound, rest⟩ := gentle_cons.mp gentle
  have left : 0 ≤ 1 - share := sub_nonneg.mpr most
  have before : |a + share * (b - a) - b| = (1 - share) * |b - a| := by
    rw [show a + share * (b - a) - b = -((1 - share) * (b - a)) by ring, abs_neg, abs_mul,
      abs_of_nonneg left]
  calc |a + share * (b - a) - u|
    _ ≤ |a + share * (b - a) - b| + |b - u| := abs_sub_le _ b u
    _ ≤ (1 - share) * (rate * length) + rate * d := by
      rw [before, abs_sub_comm b u]
      exact add_le_add (mul_le_mul_of_nonneg_left bound left) (later.near_first rest)
    _ = rate * (length + d - share * length) := by ring

theorem lipschitz {rate e u : ℝ} (nonneg : 0 ≤ rate) (gentle : Gentle rate values lengths)
    (on : OnPath values lengths d v) (onOther : OnPath values lengths e u) :
    |v - u| ≤ rate * |d - e| := by
  induction on generalizing e u with
  | @here a b length share values lengths _ most =>
    cases onOther with
    | @here _ _ _ other _ _ _ _ =>
      obtain ⟨bound, _⟩ := gentle_cons.mp gentle
      calc |a + share * (b - a) - (a + other * (b - a))|
        _ = |share - other| * |b - a| := by rw [← abs_mul]; ring_nf
        _ ≤ |share - other| * (rate * |length|) := by
          gcongr
          exact bound.trans (mul_le_mul_of_nonneg_left (le_abs_self length) nonneg)
        _ = rate * |share * length - other * length| := by rw [← sub_mul, abs_mul]; ring
    | later onRest =>
      rw [abs_sub_comm (share * length)]
      exact (near_later most gentle onRest).trans
        (mul_le_mul_of_nonneg_left (le_abs_self _) nonneg)
  | @later a b length distance value values lengths on ih =>
    cases onOther with
    | here _ most =>
      rw [abs_sub_comm value]
      exact (near_later most gentle on).trans
        (mul_le_mul_of_nonneg_left (le_abs_self _) nonneg)
    | later onRest =>
      rw [add_sub_add_left_eq_sub]
      exact ih (gentle_cons.mp gentle).2 onRest

/-- A distance has one value. -/
theorem unique {rate u : ℝ} (nonneg : 0 ≤ rate) (gentle : Gentle rate values lengths)
    (on : OnPath values lengths d v) (onOther : OnPath values lengths d u) : v = u := by
  have near := on.lipschitz nonneg gentle onOther
  rw [sub_self, abs_zero, mul_zero] at near
  exact sub_eq_zero.mp (abs_nonpos_iff.mp near)

end OnPath

namespace Resample
variable {values lengths : List ℝ} {target : ℝ}

noncomputable def place (lengths : List ℝ) (target : ℝ) : Cursor ℝ :=
  Cursor.advance lengths.toArray target ⟨0, 0⟩

theorem place_holds (nonempty : lengths ≠ []) (least : 0 ≤ target) (most : target ≤ lengths.sum) :
    ∃ within : (place lengths target).segment < lengths.length,
      (place lengths target).offset = (lengths.take (place lengths target).segment).sum ∧
        (place lengths target).offset ≤ target ∧
          target ≤ (place lengths target).offset + lengths[(place lengths target).segment] := by
  obtain ⟨passed, after⟩ := (passed_start lengths target).advance
  change Passed lengths target (place lengths target) at passed
  have within : (place lengths target).segment < lengths.length := by
    by_contra past
    have size : 0 < lengths.length := List.length_pos_iff.mpr nonempty
    have ends := passed.before (lengths.length - 1) (by omega)
    rw [Nat.sub_add_cancel size, List.take_length] at ends
    exact ends.not_ge most
  have started : (place lengths target).offset ≤ target := by
    rw [passed.offset]
    cases segment : (place lengths target).segment with
    | zero => simpa using least
    | succ k => exact (passed.before k (by omega)).le
  exact ⟨within, passed.offset, started, after within⟩

theorem valueAt_eq (matched : values.length = lengths.length + 1) {c : Cursor ℝ}
    (within : c.segment < lengths.length) (last : ℝ) :
    valueAt lengths.toArray values.toArray last target c =
      if lengths.getD c.segment 0 = 0 then values.getD (c.segment + 1) 0
      else values.getD c.segment 0 + (values.getD (c.segment + 1) 0 - values.getD c.segment 0) *
        ((target - c.offset) / lengths.getD c.segment 0) := by
  have first : c.segment < values.length := by omega
  have second : c.segment + 1 < values.length := by omega
  unfold valueAt
  simp only [List.getElem?_toArray, List.getElem?_eq_getElem within,
    List.getElem?_eq_getElem first, List.getElem?_eq_getElem second,
    List.getD_eq_getElem _ _ within, List.getD_eq_getElem _ _ first,
    List.getD_eq_getElem _ _ second]
  exact if_congr decide_eq_true_iff rfl rfl

/-- The sample at a target on the path is the value there. -/
theorem onPath_valueAt (matched : values.length = lengths.length + 1) (nonempty : lengths ≠ [])
    (least : 0 ≤ target) (most : target ≤ lengths.sum) (last : ℝ) :
    OnPath values lengths target
      (valueAt lengths.toArray values.toArray last target (place lengths target)) := by
  obtain ⟨within, offset, started, ends⟩ := place_holds nonempty least most
  generalize place lengths target = c at *
  rw [valueAt_eq matched within, List.getD_eq_getElem _ _ within,
    List.getD_eq_getElem _ _ (by omega : c.segment < values.length),
    List.getD_eq_getElem _ _ (by omega : c.segment + 1 < values.length)]
  split_ifs with flat
  · have here : target = (lengths.take c.segment).sum + 1 * lengths[c.segment] := by
      rw [flat] at ends ⊢
      linarith
    have value : values[c.segment + 1] =
        values[c.segment] + 1 * (values[c.segment + 1] - values[c.segment]) := by ring
    rw [here, value]
    exact OnPath.of_index matched within zero_le_one le_rfl
  · have positive : 0 < lengths[c.segment] :=
      lt_of_le_of_ne (le_of_add_le_add_left (a := c.offset) (by linarith)) (Ne.symm flat)
    have here : target = (lengths.take c.segment).sum +
        (target - c.offset) / lengths[c.segment] * lengths[c.segment] := by
      rw [div_mul_cancel₀ _ flat, offset]
      ring
    have most : (target - c.offset) / lengths[c.segment] ≤ 1 := by
      rw [div_le_one positive]
      linarith
    have on := OnPath.of_index matched within
      (div_nonneg (sub_nonneg.mpr started) positive.le) most
    rw [← here, mul_comm] at on
    exact on

theorem length_targets (total : ℝ) (count : ℕ) : (targets total count).length = count := by
  rw [targets, List.length_map, List.length_range]

theorem getElem_targets (total : ℝ) {count i : ℕ} (below : i < (targets total count).length) :
    (targets total count)[i] = i * total / (count - 1 : ℕ) := by
  simp only [targets, List.getElem_map, List.getElem_range]
  rfl

theorem mem_targets {total : ℝ} (positive : 0 ≤ total) {count : ℕ} (several : 2 ≤ count)
    (member : target ∈ targets total count) : 0 ≤ target ∧ target ≤ total := by
  obtain ⟨i, below, rfl⟩ := List.getElem_of_mem member
  rw [getElem_targets]
  rw [length_targets] at below
  have parts : (0 : ℝ) < (count - 1 : ℕ) := Nat.cast_pos.mpr (by omega)
  have share : (i : ℝ) ≤ (count - 1 : ℕ) := Nat.cast_le.mpr (by omega)
  refine ⟨by positivity, ?_⟩
  rw [div_le_iff₀ parts, mul_comm total]
  exact mul_le_mul_of_nonneg_right share positive

theorem reverse_targets (total : ℝ) {count : ℕ} (several : 2 ≤ count) :
    (targets total count).reverse = (targets total count).map (total - ·) := by
  have parts : ((count - 1 : ℕ) : ℝ) ≠ 0 := Nat.cast_ne_zero.mpr (by omega)
  apply List.ext_getElem
  · simp
  · intro i below _
    rw [List.length_reverse, length_targets] at below
    rw [List.getElem_reverse, List.getElem_map, getElem_targets, getElem_targets, length_targets,
      Nat.cast_sub (by omega)]
    field_simp

end Resample

variable {values lengths samples : List ℝ} {count : ℕ}

theorem resample_onPath (lasting : ∀ length ∈ lengths, 0 ≤ length)
    (sent : resample values lengths count = .ok samples) :
    values.length = lengths.length + 1 ∧ lengths ≠ [] ∧ 2 ≤ count ∧
      List.Forall₂ (OnPath values lengths) (Resample.targets lengths.sum count) samples := by
  unfold resample at sent
  split_ifs at sent with few apart short
  have matched : values.length = lengths.length + 1 := by omega
  have nonempty : lengths ≠ [] := by
    rw [← List.length_pos_iff]
    omega
  have several : 2 ≤ count := by omega
  have whole : 0 ≤ lengths.sum := List.sum_nonneg lasting
  refine ⟨matched, nonempty, several, ?_⟩
  obtain rfl := Except.ok.inj sent
  rw [Int.toNat_natCast, Resample.places, pairwiseSum_eq_sum,
    Resample.walk_eq _ (Resample.targets_pairwise whole count), List.map_map,
    List.forall₂_map_right_iff, List.forall₂_same]
  intro target member
  obtain ⟨least, most⟩ := Resample.mem_targets whole several member
  exact Resample.onPath_valueAt matched nonempty least most _

/-- What lies on a path at the targets is sampled there, if a distance has one value. -/
theorem resample_of_onPath {rate : ℝ} (lasting : ∀ length ∈ lengths, 0 ≤ length)
    (positive : 0 ≤ rate) (gentle : OnPath.Gentle rate values lengths)
    (matched : values.length = lengths.length + 1) (nonempty : lengths ≠ []) (several : 2 ≤ count)
    (on : List.Forall₂ (OnPath values lengths) (Resample.targets lengths.sum count) samples) :
    resample values lengths count = .ok samples := by
  have size : 0 < lengths.length := List.length_pos_iff.mpr nonempty
  obtain ⟨found, sent, _⟩ := resample_ok (by omega) (Nat.eq_sub_of_add_eq matched.symm) several
  obtain ⟨_, _, _, onFound⟩ := resample_onPath lasting sent
  have one : Relator.RightUnique (OnPath values lengths) := fun _ _ _ first second =>
    first.unique positive gentle second
  rw [sent, List.right_unique_forall₂' one onFound on]

/-- A path read backwards is sampled at the same places from the last to the first. -/
theorem resample_reverse (lasting : ∀ length ∈ lengths, 0 ≤ length)
    (gentle : OnPath.Gentle 1 values.reverse lengths.reverse)
    (sent : resample values lengths count = .ok samples) :
    resample values.reverse lengths.reverse count = .ok samples.reverse := by
  obtain ⟨matched, nonempty, several, on⟩ := resample_onPath lasting sent
  have lastingBack : ∀ length ∈ lengths.reverse, 0 ≤ length := fun length member =>
    lasting length (List.mem_reverse.mp member)
  have matchedBack : values.reverse.length = lengths.reverse.length + 1 := by
    rw [List.length_reverse, List.length_reverse, matched]
  apply resample_of_onPath lastingBack zero_le_one gentle matchedBack
    (List.reverse_eq_nil_iff.not.mpr nonempty) several
  rw [List.sum_reverse, ← List.reverse_reverse (Resample.targets lengths.sum count),
    List.forall₂_reverse_iff, Resample.reverse_targets lengths.sum several,
    List.forall₂_map_left_iff]
  exact on.imp fun d v on => on.reverse matched

end GestureLexicon
