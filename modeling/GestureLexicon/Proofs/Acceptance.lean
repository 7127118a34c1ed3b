import GestureLexicon.Proofs.Axes

/-!
What transforms accept. A line that a transform gives anything for has a length that it takes, so a
table or a volume that it gives anything for has such lengths along its axes, since along each of
them there is a line.
-/

namespace GestureLexicon
variable {α β : Type}

/-- Whatever a step gives anything for is accepted and keeps fitting. -/
def Checks (fits : β → Prop) (accepted : Prop) (step : β → Except TransformError β) : Prop :=
  ∀ x y, fits x → step x = .ok y → accepted ∧ fits y

namespace Checks
variable {fits : β → Prop} {accepted more : Prop} {step next : β → Except TransformError β}
  {height width : ℕ}

theorem bind (first : Checks fits accepted step) (second : Checks fits more next) :
    Checks fits (accepted ∧ more) (step · >>= next) := by
  intro x z fine sent
  obtain ⟨y, sent, sentOn⟩ := bind_eq_ok sent
  obtain ⟨holds, fine⟩ := first x y fine sent
  obtain ⟨holdsMore, fine⟩ := second y z fine sentOn
  exact ⟨⟨holds, holdsMore⟩, fine⟩

theorem swap (checks : Checks fits (accepted ∧ more) step) : Checks fits (more ∧ accepted) step :=
  fun x y fine sent => (checks x y fine sent).imp_left And.symm

theorem mapM (checks : Checks fits accepted step) (high : 0 < height) :
    Checks (Each height fits) accepted (·.mapM step) := by
  rintro xs ys ⟨length, fine⟩ sent
  have checked : ∀ y ∈ ys, accepted ∧ fits y := by
    intro y member
    obtain ⟨x, among, sent⟩ := exists_of_mem_mapM sent member
    exact checks x y (fine x among) sent
  have size : ys.length = height := (forall₂_of_mapM sent).length_eq.symm.trans length
  obtain ⟨y, member⟩ := List.exists_mem_of_length_pos (size.symm ▸ high)
  exact ⟨(checked y member).1, size, fun y member => (checked y member).2⟩

theorem onColumns {step : List β → Except TransformError (List β)}
    (checks : Checks (Each height fits) accepted step) (high : 0 < height) (wide : 0 < width) :
    Checks (Each height (Each width fits)) accepted (onColumns step) := by
  intro rows out sized sent
  obtain ⟨turned, read, made⟩ := bind_eq_ok sent
  obtain rfl := Except.ok.inj made
  obtain ⟨holds, kept⟩ := checks.mapM wide _ _ (each_columns sized high) read
  exact ⟨holds, each_columns kept wide⟩

end Checks

namespace Transform
variable [Zero α] [Add α] [Mul α] [Neg α] {t : Transform α} {d : Direction} {level : Option Int}

theorem accepts_of_ok {xs ys : List α} (sent : t.line.step d level xs = .ok ys) :
    t.Accepts xs.length := by
  have power {step : Except TransformError (List α)} {e : TransformError}
      (sent : (if !isPowerOfTwo xs.length then .error e else step) = .ok ys) :
      xs.length.isPowerOfTwo := by
    rw [← isPowerOfTwo_iff]
    by_contra other
    rw [Bool.not_eq_true] at other
    simp [other] at sent
  cases t with
  | decomposed inner =>
    apply Nat.pos_of_ne_zero
    intro empty
    obtain rfl := List.length_eq_zero_iff.mp empty
    cases d <;> exact nomatch sent
  | _ => cases d <;> exact power sent

variable (t d) {depth height width : ℕ}

theorem checks (allowed : LevelAllowed level) (length : ℕ) :
    Checks (Each length fun _ => True) (t.Accepts length) (t.line.step d level) := by
  rw [each_true]
  rintro xs ys rfl sent
  have accepted := accepts_of_ok sent
  have keeps : Keeps xs.length (t.line.step d level) := by
    cases d with
    | forward => exact t.keeps_forward accepted
    | reverse => exact t.keeps_reverse allowed accepted
  obtain ⟨out, sentAlso, kept, _⟩ := keeps xs rfl
  obtain rfl := Except.ok.inj (sent.symm.trans sentAlso)
  exact ⟨accepted, kept⟩

theorem checks_onTable (allowed : LevelAllowed level) (high : 0 < height) (wide : 0 < width) :
    Checks (Each height (Each width fun _ => True)) (t.Accepts height ∧ t.Accepts width)
      (t.line.onTable d level) := by
  have rows := (t.checks d allowed width).mapM high
  have columns := (t.checks d allowed height).onColumns high wide
  cases d with
  | forward => exact (rows.bind columns).swap
  | reverse => exact columns.bind rows

theorem checks_onVolume (allowed : LevelAllowed level) (deep : 0 < depth) (high : 0 < height)
    (wide : 0 < width) : Checks (Each depth (Each height (Each width fun _ => True)))
      (t.Accepts depth ∧ t.Accepts height ∧ t.Accepts width) (t.line.onVolume d level) := by
  have tables := (t.checks_onTable d allowed high wide).mapM deep
  have across := ((t.checks d allowed depth).onColumns deep wide).onColumns deep high
  cases d with
  | forward => exact (tables.bind across).swap
  | reverse => exact across.bind tables

end Transform

namespace Tensor
variable [Zero α] [Add α] [Mul α] [Neg α] {t : Transform α} {d : Direction} {level : Option Int}
  {x y : Tensor α}

theorem accepts_of_transformTable (allowed : LevelAllowed level) (filled : x.Filled)
    (two : x.shape.length = 2) (sent : transformTable t.line d x level = .ok y) :
    ∀ size ∈ x.shape, t.Accepts size := by
  obtain ⟨shape, entries⟩ := x
  obtain ⟨height, width, rfl⟩ := List.length_eq_two.mp two
  by_cases empty : entries = []
  · subst empty
    exact nomatch sent
  have positive : ∀ size ∈ [height, width], 0 < size := fun _ => filled.pos_of_mem empty
  simp only [List.forall_mem_cons] at positive
  rw [transformTable_eq empty] at sent
  obtain ⟨out, sent, _⟩ := bind_eq_ok sent
  have cut := (Nesting.table height positive.2.1).fits_cut entries filled
  obtain ⟨⟨first, second⟩, _⟩ := t.checks_onTable d allowed positive.1 positive.2.1 _ _ cut sent
  simp [first, second]

theorem accepts_of_transformVolume (allowed : LevelAllowed level) (filled : x.Filled)
    (three : x.shape.length = 3) (sent : transformVolume t.line d x level = .ok y) :
    ∀ size ∈ x.shape, t.Accepts size := by
  obtain ⟨shape, entries⟩ := x
  obtain ⟨depth, height, width, rfl⟩ := List.length_eq_three.mp three
  by_cases empty : entries = []
  · subst empty
    exact nomatch sent
  have positive : ∀ size ∈ [depth, height, width], 0 < size := fun _ => filled.pos_of_mem empty
  simp only [List.forall_mem_cons] at positive
  obtain ⟨deep, high, wide, _⟩ := positive
  rw [transformVolume_eq empty] at sent
  obtain ⟨out, sent, _⟩ := bind_eq_ok sent
  have cut := (Nesting.volume depth high wide).fits_cut entries filled
  obtain ⟨⟨first, second, third⟩, _⟩ := t.checks_onVolume d allowed deep high wide _ _ cut sent
  simp [first, second, third]

end Tensor

end GestureLexicon
