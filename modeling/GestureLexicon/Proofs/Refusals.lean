import GestureLexicon.Proofs.Bands
import GestureLexicon.Proofs.Parts

/-!
What transforms refuse, forward and back. Forward a transform refuses only lines of lengths that it
does not take, whatever the level is. Back it refuses these too, and where it counts levels all
other lines as well once the level is negative, since there is no width to start from. Main
statement: `Transform.refuse_alike_iff`.
-/

namespace GestureLexicon
variable {α : Type} {level : Option ℤ}

theorem not_levelAllowed_iff : ¬LevelAllowed level ↔ ∃ bound < 0, level = some bound := by
  unfold LevelAllowed
  push Not
  exact exists_congr fun bound => and_comm

theorem Wavelet.ascend_negative {pass : List α → ℕ → Except TransformError (List α)}
    {stage : Stage} (w : Wavelet α) {xs : List α} (power : xs.length.isPowerOfTwo)
    (negative : ¬LevelAllowed level) :
    ascend pass stage w xs level = .error .negativeShift := by
  obtain ⟨bound, below, rfl⟩ := not_levelAllowed_iff.mp negative
  have counted : w.levelCount xs.length (some bound) < 0 := (min_le_right _ _).trans_lt below
  have accepted := (isPowerOfTwo_iff _).mpr power
  simp only [ascend, accepted, Bool.not_true, Bool.false_eq_true, ↓reduceIte, if_neg counted.ne,
    if_pos counted]

namespace Transform

/-- The transforms that count levels, as they are or decomposed. -/
def CountsLevels : Transform α → Prop
  | filter _ => False
  | pyramid _ | packet _ => True
  | decomposed inner => inner.CountsLevels

/-- The lengths of the lines on which a transform counts levels: all that it takes, or decomposed
those with a part that is no single entry. -/
def CountsAt (length : ℕ) : Transform α → Prop
  | filter _ => False
  | pyramid _ | packet _ => length.isPowerOfTwo
  | decomposed inner => 2 ≤ length ∧ inner.CountsLevels

variable {length : ℕ} (t : Transform α)

theorem accepts_of_countsAt (counts : t.CountsAt length) : t.Accepts length := by
  cases t with
  | filter w => exact counts.elim
  | pyramid w => exact counts
  | packet w => exact counts
  | decomposed inner => exact Nat.zero_lt_of_lt counts.1

theorem countsAt_iff_of_part (power : length.isPowerOfTwo) (several : 2 ≤ length) :
    t.CountsAt length ↔ t.CountsLevels := by
  cases t with
  | filter w => exact Iff.rfl
  | pyramid w => exact iff_of_true power trivial
  | packet w => exact iff_of_true power trivial
  | decomposed inner => exact and_iff_right several

theorem two_le_of_mem_sizes {size : ℕ} (member : size ∈ Multipliers.sizes length)
    (more : size ≠ 1) : 2 ≤ size ∧ 2 ≤ length := by
  have positive : 0 < size :=
    Nat.pos_of_isPowerOfTwo (Multipliers.isPowerOfTwo_of_mem_sizes member)
  have within : size ≤ length := (List.le_sum_of_mem member).trans_eq (Multipliers.sum_sizes length)
  omega

variable [Zero α] [Add α] [Mul α] [Neg α]

/-- The way back refuses no line that the transform takes, unless it counts levels there and the
level is negative. -/
theorem keeps_reverse_of_counted (fine : LevelAllowed level ∨ ¬t.CountsAt length)
    (accepted : t.Accepts length) : Keeps length (t.reverse · level) := by
  obtain allowed | uncounted := fine
  · exact t.keeps_reverse allowed accepted
  induction t generalizing length with
  | filter w => exact w.keeps_reverse accepted
  | pyramid w => exact absurd accepted uncounted
  | packet w => exact absurd accepted uncounted
  | decomposed inner ih =>
    have parts : ∀ size ∈ Multipliers.sizes length, size ≠ 1 →
        Keeps size (inner.reverse · level) := by
      intro size member more
      obtain ⟨several, long⟩ := two_le_of_mem_sizes member more
      have power := Multipliers.isPowerOfTwo_of_mem_sizes member
      refine ih (inner.accepts_of_mem_sizes member) fun counts => uncounted ⟨long, ?_⟩
      exact (inner.countsAt_iff_of_part power several).mp counts
    exact (Sends.onParts accepted parts fun _ => trivial).keeps

theorem reverse_negative (negative : ¬LevelAllowed level) {xs : List α}
    (counts : t.CountsAt xs.length) : t.reverse xs level = .error .negativeShift := by
  induction t generalizing xs with
  | filter w => exact counts.elim
  | pyramid w => exact w.ascend_negative counts negative
  | packet w => exact w.ascend_negative counts negative
  | decomposed inner ih =>
    obtain ⟨long, counts⟩ := counts
    have nonzero : xs.length ≠ 0 := by omega
    have sized : (xs.take (2 ^ xs.length.log2)).length = 2 ^ xs.length.log2 :=
      List.length_take_of_le (Nat.log2_self_le nonzero)
    -- The largest part comes first and is more than a single entry, so it is where this is refused.
    have several : 2 ≤ 2 ^ xs.length.log2 :=
      Nat.le_self_pow (Nat.ne_of_gt ((Nat.le_log2 nonzero).mpr long)) 2
    have first : onPart inner.reverse level (xs.take (2 ^ xs.length.log2)) =
        .error .negativeShift := by
      rw [onPart, if_neg (by omega)]
      refine ih ?_
      rw [sized]
      exact (inner.countsAt_iff_of_part ⟨_, rfl⟩ several).mpr counts
    change LineTransform.onParts inner.reverse xs level = _
    rw [onParts_eq_onPieces _ (by omega), Multipliers.sizes, Multipliers.ofNat_eq_cons nonzero,
      List.map_cons, Multipliers.power_eq, onPieces_cons, first]
    rfl

theorem refused_iff_of_keeps (d : Direction) {xs : List α}
    (keeps : t.Accepts xs.length → Keeps xs.length (t.line.step d level)) :
    (∃ e, t.line.step d level xs = .error e) ↔ ¬t.Accepts xs.length := by
  constructor
  · rintro ⟨e, refused⟩ accepted
    obtain ⟨ys, sent, _⟩ := keeps accepted xs rfl
    exact nomatch sent.symm.trans refused
  · intro other
    cases sent : t.line.step d level xs with
    | error e => exact ⟨e, rfl⟩
    | ok ys => exact absurd (accepts_of_ok sent) other

/-- Forward a transform refuses the lines of lengths that it does not take and no others. Back it
refuses these and, at a negative level, those on which it counts levels. So it refuses the same
lines in both directions exactly if the level is not negative or no level is counted. -/
theorem refuse_alike_iff (t : Transform α) (level : Option ℤ) (xs : List α) :
    ((∃ e, t.forward xs level = .error e) ↔ ¬t.Accepts xs.length) ∧
    ((∃ e, t.reverse xs level = .error e) ↔
      ¬t.Accepts xs.length ∨ (¬LevelAllowed level ∧ t.CountsAt xs.length)) ∧
    (¬LevelAllowed level → t.CountsAt xs.length → t.reverse xs level = .error .negativeShift) ∧
    (((∃ e, t.forward xs level = .error e) ↔ ∃ e, t.reverse xs level = .error e) ↔
      LevelAllowed level ∨ ¬t.CountsAt xs.length) := by
  have there : (∃ e, t.forward xs level = .error e) ↔ ¬t.Accepts xs.length :=
    t.refused_iff_of_keeps .forward fun accepted => t.keeps_forward accepted
  by_cases fine : LevelAllowed level ∨ ¬t.CountsAt xs.length
  · have back : (∃ e, t.reverse xs level = .error e) ↔ ¬t.Accepts xs.length :=
      t.refused_iff_of_keeps .reverse fun accepted => t.keeps_reverse_of_counted fine accepted
    have counted : ¬(¬LevelAllowed level ∧ t.CountsAt xs.length) := by
      rwa [not_and_or, not_not]
    refine ⟨there, back.trans (or_iff_left counted).symm, ?_, ?_⟩
    · exact fun negative counts => absurd ⟨negative, counts⟩ counted
    · exact iff_of_true (there.trans back.symm) fine
  · obtain ⟨negative, counts⟩ := not_or.mp fine
    rw [not_not] at counts
    have refused := t.reverse_negative negative counts
    have back : ∃ e, t.reverse xs level = .error e := ⟨_, refused⟩
    refine ⟨there, iff_of_true back (.inr ⟨negative, counts⟩), fun _ _ => refused, ?_⟩
    refine iff_of_false (fun alike => ?_) fine
    exact there.mp (alike.mpr back) (t.accepts_of_countsAt counts)

/-- Three entries in two parts, of which the way back refuses the first at level minus one. -/
theorem refuse_alike_iff_three :
    let t : Transform ℤ := .decomposed (.packet ⟨none, [1, 1], le_rfl, rfl⟩)
    ¬LevelAllowed (some (-1)) ∧ t.CountsAt [3, 1, 4].length ∧
      t.reverse [3, 1, 4] (some (-1)) = .error .negativeShift ∧
      ¬∃ e, t.forward [3, 1, 4] (some (-1)) = .error e := by
  intro t
  have negative : ¬LevelAllowed (some (-1)) := not_levelAllowed_iff.mpr ⟨-1, by decide, rfl⟩
  have counts : t.CountsAt [3, 1, 4].length := ⟨by decide, trivial⟩
  obtain ⟨there, _, back, _⟩ := t.refuse_alike_iff (some (-1)) [3, 1, 4]
  have taken : t.Accepts [3, 1, 4].length := t.accepts_of_countsAt counts
  exact ⟨negative, counts, back negative counts, fun refused => there.mp refused taken⟩

/-- Two entries go forward at level minus one and do not come back. -/
theorem refused_back_only :
    ¬∀ (t : Transform ℝ) (level : ℤ) (xs : List ℝ),
      (∃ e, t.forward xs (some level) = .error e) ↔ ∃ e, t.reverse xs (some level) = .error e := by
  intro alike
  have negative : ¬LevelAllowed (some (-1)) := not_levelAllowed_iff.mpr ⟨-1, by decide, rfl⟩
  have power : ([1, 2] : List ℝ).length.isPowerOfTwo := ⟨1, rfl⟩
  have back := (pyramid .haar).reverse_negative negative power
  obtain ⟨e, refused⟩ := (alike (.pyramid .haar) (-1) [1, 2]).mpr ⟨_, back⟩
  obtain ⟨ys, sent, _⟩ := (pyramid .haar).keeps_forward power [1, 2] rfl
  exact nomatch sent.symm.trans refused

end Transform

end GestureLexicon
