import GestureLexicon.Proofs.RoundTrip
import GestureLexicon.Proofs.Tables

/-!
Tables and volumes on the way there and back. A step on lines that another step takes back is taken
back along rows, along columns and across slices, and steps along one axis after another are taken
back from the last axis to the first. So data of every shape comes back if lines as long as its axes
do. Main statement: `Tensor.comes_back_along_axes`.
-/

namespace GestureLexicon
variable {α β : Type}

/-- All that fits goes to what fits, and another step takes it back. -/
def Restores (fits : β → Prop) (there back : β → Except TransformError β) : Prop :=
  ∀ x, fits x → ∃ y, there x = .ok y ∧ fits y ∧ back y = .ok x

def onColumns (step : List β → Except TransformError (List β)) (rows : List (List β)) :
    Except TransformError (List (List β)) := do
  return columns (← (columns rows).mapM step)

theorem onColumns_tableOf {step : List β → Except TransformError (List β)} {height width : Nat}
    {f g : Fin height → Fin width → β} (high : 0 < height) (wide : 0 < width)
    (each : ∀ j, step (List.ofFn fun i => f i j) = .ok (List.ofFn fun i => g i j)) :
    onColumns step (tableOf f) = .ok (tableOf g) := by
  have sent : (tableOf fun j i => f i j).mapM step = .ok (tableOf fun j i => g i j) :=
    mapM_ofFn each
  rw [onColumns, columns_tableOf f high, sent]
  exact congrArg Except.ok (columns_tableOf _ wide)

namespace Restores
variable {fits : β → Prop} {there back forth fro : β → Except TransformError β}

theorem bind (first : Restores fits there back) (second : Restores fits forth fro) :
    Restores fits (there · >>= forth) (fro · >>= back) := by
  intro x fine
  obtain ⟨y, sent, kept, undone⟩ := first x fine
  obtain ⟨z, sentOn, keptOn, undoneOn⟩ := second y kept
  refine ⟨z, ?_, keptOn, ?_⟩
  · change there x >>= forth = _
    rw [sent]
    exact sentOn
  · change fro z >>= back = _
    rw [undoneOn]
    exact undone

theorem mapM (restores : Restores fits there back) (count : Nat) :
    Restores (Each count fits) (·.mapM there) (·.mapM back) := by
  rintro xs ⟨length, fine⟩
  induction xs generalizing count with
  | nil => exact ⟨[], rfl, ⟨length, fine⟩, rfl⟩
  | cons x xs ih =>
    obtain ⟨y, sent, kept, undone⟩ := restores x (fine x List.mem_cons_self)
    obtain ⟨ys, sentRest, keptRest, undoneRest⟩ :=
      ih xs.length rfl fun other member => fine other (List.mem_cons_of_mem _ member)
    refine ⟨y :: ys, ?_, ⟨?_, ?_⟩, ?_⟩
    · simp only [List.mapM_cons, sent, show xs.mapM there = _ from sentRest]
      rfl
    · rw [← length, List.length_cons, List.length_cons, keptRest.length]
    · exact List.forall_mem_cons.mpr ⟨kept, keptRest.fits⟩
    · simp only [List.mapM_cons, undone, show ys.mapM back = _ from undoneRest]
      rfl

variable {height width : Nat}

theorem onColumns {there back : List β → Except TransformError (List β)}
    (restores : Restores (Each height fits) there back) (high : 0 < height) (wide : 0 < width) :
    Restores (Each height (Each width fits)) (onColumns there) (onColumns back) := by
  intro rows sized
  obtain ⟨out, sent, kept, undone⟩ := restores.mapM width (columns rows) (each_columns sized high)
  refine ⟨columns out, ?_, each_columns kept wide, ?_⟩
  · change (columns rows).mapM there >>= _ = _
    rw [show (columns rows).mapM there = _ from sent]
    rfl
  · change (columns (columns out)).mapM back >>= _ = _
    rw [columns_columns kept wide high, show out.mapM back = _ from undone]
    exact congrArg Except.ok (columns_columns sized high wide)

end Restores

def Direction.opposite : Direction → Direction
  | forward => reverse
  | reverse => forward

namespace LineTransform
variable (t : LineTransform α) (d : Direction) (level : Option Int)

def step (xs : List α) : Except TransformError (List α) :=
  match d with
  | .forward => t.forward xs level
  | .reverse => t.reverse xs level

def onTable (table : List (List α)) : Except TransformError (List (List α)) :=
  match d with
  | .forward => Grid.forwardTable t table level
  | .reverse => Grid.reverseTable t table level

def onVolume (slices : List (List (List α))) : Except TransformError (List (List (List α))) :=
  match d with
  | .forward => Grid.forwardVolume t slices level
  | .reverse => Grid.reverseVolume t slices level

/-- Lines of a length come back to a direction's step. -/
def TakesBack (length : Nat) : Prop :=
  Undoes length (t.step d level) (t.step d.opposite level)

variable {t d level} {depth height width : Nat}

theorem TakesBack.restores {length : Nat} (takesBack : t.TakesBack d level length) :
    Restores (Each length fun _ => True) (t.step d level) (t.step d.opposite level) := by
  rw [each_true]
  exact takesBack

theorem TakesBack.onTable (columns : t.TakesBack d level height) (rows : t.TakesBack d level width)
    (high : 0 < height) (wide : 0 < width) :
    Restores (Each height (Each width fun _ => True)) (t.onTable d level)
      (t.onTable d.opposite level) := by
  have alongRows := rows.restores.mapM height
  have alongColumns := columns.restores.onColumns high wide
  cases d with
  | forward => exact alongRows.bind alongColumns
  | reverse => exact alongColumns.bind alongRows

theorem TakesBack.onVolume (across : t.TakesBack d level depth)
    (columns : t.TakesBack d level height) (rows : t.TakesBack d level width)
    (deep : 0 < depth) (high : 0 < height) (wide : 0 < width) :
    Restores (Each depth (Each height (Each width fun _ => True))) (t.onVolume d level)
      (t.onVolume d.opposite level) := by
  have tables := (columns.onTable rows high wide).mapM depth
  have acrossSlices := (across.restores.onColumns deep wide).onColumns deep high
  cases d with
  | forward => exact tables.bind acrossSlices
  | reverse => exact acrossSlices.bind tables

end LineTransform

namespace Transform
variable {R : Type} [CommRing R] {length : Nat} {level : Option Int}

theorem takesBack (t : Transform R) (d : Direction) (orthonormal : t.wavelet.Orthonormal)
    (allowed : LevelAllowed level) (accepted : t.Accepts length) :
    t.line.TakesBack d level length := by
  have inverse := t.inverse orthonormal allowed accepted
  cases d with
  | forward => exact inverse.1
  | reverse => exact inverse.2

end Transform

namespace Tensor

/-- The sizes along the axes account for the entries. -/
def Filled (x : Tensor α) : Prop :=
  x.entries.length = x.shape.prod

def HasShape (shape : List Nat) (x : Tensor α) : Prop :=
  x.shape = shape ∧ x.Filled

/-- Data goes to data of its shape, which comes back to it. -/
def ComesBack (there back : Tensor α → Except TransformError (Tensor α)) (x : Tensor α) : Prop :=
  ∃ y, there x = .ok y ∧ y.HasShape x.shape ∧ back y = .ok x

def ComesBackAlongAxes (t : LineTransform α) (d : Direction) (level : Option Int)
    (x : Tensor α) : Prop :=
  (x.shape.length = 2 →
    x.ComesBack (transformTable t d · level) (transformTable t d.opposite · level)) ∧
  (x.shape.length = 3 →
    x.ComesBack (transformVolume t d · level) (transformVolume t d.opposite · level))

end Tensor

/-- Nested lists that hold the entries of data of a shape, in row-major order. -/
structure Nesting (α β : Type) (shape : List Nat) where
  fits : β → Prop
  cut : List α → β
  join : β → List α
  fits_cut : ∀ xs, xs.length = shape.prod → fits (cut xs)
  join_cut : ∀ xs, xs.length = shape.prod → join (cut xs) = xs
  length_join : ∀ x, fits x → (join x).length = shape.prod
  cut_join : ∀ x, fits x → cut (join x) = x

namespace Nesting

def line (length : Nat) : Nesting α (List α) [length] where
  fits := (·.length = length)
  cut := id
  join := id
  fits_cut := by simp
  join_cut := fun _ _ => rfl
  length_join := by simp
  cut_join := fun _ _ => rfl

def table (height : Nat) {width : Nat} (wide : 0 < width) :
    Nesting α (List (List α)) [height, width] where
  fits := Each height (Each width fun _ => True)
  cut := blocks width
  join := List.flatten
  fits_cut := fun xs size => each_blocks wide ⟨by simpa using size, fun _ _ => trivial⟩
  join_cut := fun xs _ => flatten_blocks wide xs
  length_join := fun x sized => by simpa using (each_flatten sized).length
  cut_join := fun x sized => blocks_flatten wide sized

def volume (depth : Nat) {height width : Nat} (high : 0 < height) (wide : 0 < width) :
    Nesting α (List (List (List α))) [depth, height, width] where
  fits := Each depth (Each height (Each width fun _ => True))
  cut := fun xs => blocks height (blocks width xs)
  join := fun slices => slices.flatten.flatten
  fits_cut := fun xs size =>
    each_blocks high (each_blocks wide ⟨by simpa [Nat.mul_assoc] using size, fun _ _ => trivial⟩)
  join_cut := fun xs _ => by rw [flatten_blocks high, flatten_blocks wide]
  length_join := fun x sized => by
    simpa [Nat.mul_assoc] using (each_flatten (each_flatten sized)).length
  cut_join := fun x sized => by
    rw [blocks_flatten wide (each_flatten sized), blocks_flatten high sized]

variable {shape : List Nat} (nesting : Nesting α β shape)

/-- An operation on data does to it what a step does to the nested lists. -/
def Lifts (step : β → Except TransformError β)
    (operation : Tensor α → Except TransformError (Tensor α)) : Prop :=
  ∀ xs out, xs.length = shape.prod → step (nesting.cut xs) = .ok out → nesting.fits out →
    operation ⟨shape, xs⟩ = .ok ⟨shape, nesting.join out⟩

variable {nesting} {step stepBack : β → Except TransformError β}
  {there back : Tensor α → Except TransformError (Tensor α)}

theorem restores (lifts : nesting.Lifts step there) (liftsBack : nesting.Lifts stepBack back)
    (restores : Restores nesting.fits step stepBack) :
    Restores (Tensor.HasShape shape) there back := by
  rintro ⟨_, xs⟩ ⟨rfl, filled⟩
  have length : xs.length = _ := filled
  obtain ⟨out, sent, kept, undone⟩ := restores (nesting.cut xs) (nesting.fits_cut xs length)
  have joined := nesting.length_join out kept
  refine ⟨_, lifts xs out length sent kept, ⟨rfl, joined⟩, ?_⟩
  rw [← nesting.cut_join out kept] at undone
  rw [liftsBack _ _ joined undone (nesting.fits_cut xs length), nesting.join_cut xs length]

end Nesting

namespace Tensor
variable {t : LineTransform α} {d : Direction} {level : Option Int} {depth height width : Nat}

theorem transformTable_eq {entries : List α} (nonempty : entries ≠ []) :
    transformTable t d ⟨[height, width], entries⟩ level =
      t.onTable d level (blocks width entries) >>=
        fun table => .ok ⟨[height, width], table.flatten⟩ := by
  unfold transformTable
  simp only [List.isEmpty_eq_false_iff.mpr nonempty]
  cases d <;> rfl

theorem transformVolume_eq {entries : List α} (nonempty : entries ≠ []) :
    transformVolume t d ⟨[depth, height, width], entries⟩ level =
      t.onVolume d level (blocks height (blocks width entries)) >>=
        fun slices => .ok ⟨[depth, height, width], slices.flatten.flatten⟩ := by
  unfold transformVolume
  simp only [List.isEmpty_eq_false_iff.mpr nonempty]
  cases d <;> rfl

theorem lifts_table (high : 0 < height) (wide : 0 < width) :
    (Nesting.table height wide).Lifts (t.onTable d level) (transformTable t d · level) := by
  intro xs out length sent _
  have present : xs ≠ [] := by
    rw [← List.length_pos_iff, length]
    simp [high, wide]
  change transformTable t d ⟨[height, width], xs⟩ level = _
  rw [transformTable_eq present, show t.onTable d level (blocks width xs) = .ok out from sent]
  rfl

theorem lifts_volume (deep : 0 < depth) (high : 0 < height) (wide : 0 < width) :
    (Nesting.volume depth high wide).Lifts (t.onVolume d level) (transformVolume t d · level) := by
  intro xs out length sent _
  have present : xs ≠ [] := by
    rw [← List.length_pos_iff, length]
    simp [deep, high, wide]
  change transformVolume t d ⟨[depth, height, width], xs⟩ level = _
  rw [transformVolume_eq present,
    show t.onVolume d level (blocks height (blocks width xs)) = .ok out from sent]
  rfl

theorem restores_table (high : 0 < height) (wide : 0 < width)
    (columns : t.TakesBack d level height) (rows : t.TakesBack d level width) :
    Restores (HasShape [height, width]) (transformTable t d · level)
      (transformTable t d.opposite · level) :=
  Nesting.restores (lifts_table high wide) (lifts_table high wide) (columns.onTable rows high wide)

theorem restores_volume (deep : 0 < depth) (high : 0 < height) (wide : 0 < width)
    (across : t.TakesBack d level depth) (columns : t.TakesBack d level height)
    (rows : t.TakesBack d level width) :
    Restores (HasShape [depth, height, width]) (transformVolume t d · level)
      (transformVolume t d.opposite · level) :=
  Nesting.restores (lifts_volume deep high wide) (lifts_volume deep high wide)
    (across.onVolume columns rows deep high wide)

theorem Filled.pos_of_mem {x : Tensor α} (filled : x.Filled) (nonempty : x.entries ≠ [])
    {size : Nat} (axis : size ∈ x.shape) : 0 < size := by
  apply Nat.pos_of_ne_zero
  rintro rfl
  apply nonempty
  rw [← List.length_eq_zero_iff, filled]
  exact List.prod_eq_zero axis

theorem comesBackAlongAxes {x : Tensor α} (filled : x.Filled) (nonempty : x.entries ≠ [])
    (each : ∀ size ∈ x.shape, t.TakesBack d level size) : x.ComesBackAlongAxes t d level := by
  have positive : ∀ size ∈ x.shape, 0 < size := fun _ => filled.pos_of_mem nonempty
  obtain ⟨shape, entries⟩ := x
  constructor
  · intro two
    obtain ⟨height, width, rfl⟩ := List.length_eq_two.mp two
    simp only [List.forall_mem_cons] at positive each
    exact restores_table positive.1 positive.2.1 each.1 each.2.1 _ ⟨rfl, filled⟩
  · intro three
    obtain ⟨depth, height, width, rfl⟩ := List.length_eq_three.mp three
    simp only [List.forall_mem_cons] at positive each
    exact restores_volume positive.1 positive.2.1 positive.2.2.1 each.1 each.2.1 each.2.2.1 _
      ⟨rfl, filled⟩

/-- If a step takes back another on all lines as long as the axes of a table or a volume, the
passes along its axes are taken back, whatever the step does. So data comes back from every
transform on an orthonormal wavelet that takes lines of these lengths, and from a decomposed
transform if it has entries at all. -/
theorem comes_back_along_axes :
    (∀ {α : Type} (t : LineTransform α) (d : Direction) (level : Option Int) (x : Tensor α),
      x.Filled → x.entries ≠ [] → (∀ size ∈ x.shape, t.TakesBack d level size) →
        x.ComesBackAlongAxes t d level) ∧
    (∀ {R : Type} [CommRing R] (t : Transform R) (d : Direction) (level : Option Int)
      (x : Tensor R), t.wavelet.Orthonormal → LevelAllowed level →
        x.Filled → x.entries ≠ [] → (∀ size ∈ x.shape, t.Accepts size) →
          x.ComesBackAlongAxes t.line d level) ∧
    ∀ {R : Type} [CommRing R] (inner : Transform R) (d : Direction) (level : Option Int)
      (x : Tensor R), inner.wavelet.Orthonormal → LevelAllowed level →
        x.Filled → x.entries ≠ [] → x.ComesBackAlongAxes inner.line.decomposed d level := by
  refine ⟨fun t d level x => comesBackAlongAxes, ?_, ?_⟩
  · intro R _ t d level x orthonormal allowed filled nonempty accepted
    exact comesBackAlongAxes filled nonempty fun size axis =>
      t.takesBack d orthonormal allowed (accepted size axis)
  · intro R _ inner d level x orthonormal allowed filled nonempty
    exact comesBackAlongAxes filled nonempty fun size axis =>
      (Transform.decomposed inner).takesBack d orthonormal allowed (filled.pos_of_mem nonempty axis)

/-- Lines read backwards along both axes, a volume under the pyramid, and a table of three columns,
which only the decomposed pyramid takes. -/
theorem comes_back_along_axes_small :
    let backwards : LineTransform ℝ := ⟨fun xs _ => .ok xs.reverse, fun xs _ => .ok xs.reverse⟩
    let pyramid : Transform ℝ := .pyramid Wavelet.haar
    let table : Tensor ℝ := ⟨[2, 3], [3, 1, 4, 1, 5, 9]⟩
    let volume : Tensor ℝ := ⟨[2, 1, 4], [3, 1, 4, 1, 5, 9, 2, 6]⟩
    (table.Filled ∧ table.entries ≠ [] ∧ volume.Filled ∧ volume.entries ≠ []) ∧
      (pyramid.wavelet.Orthonormal ∧ LevelAllowed (some 1)) ∧
      (∀ size ∈ table.shape, backwards.TakesBack .forward none size) ∧
      (∀ size ∈ volume.shape, pyramid.Accepts size) ∧
      table.ComesBackAlongAxes backwards .forward none ∧
      volume.ComesBackAlongAxes pyramid.line .reverse (some 1) ∧
      table.ComesBackAlongAxes pyramid.line.decomposed .forward (some 1) := by
  intro backwards pyramid table volume
  have orthonormal : pyramid.wavelet.Orthonormal := Wavelet.haar_orthonormal
  have allowed : LevelAllowed (some 1) := by
    rintro bound ⟨rfl⟩
    decide
  have filled : table.Filled := rfl
  have filledVolume : volume.Filled := rfl
  have nonempty : table.entries ≠ [] := List.cons_ne_nil _ _
  have someVolume : volume.entries ≠ [] := List.cons_ne_nil _ _
  have taken : ∀ size ∈ table.shape, backwards.TakesBack .forward none size := by
    intro size _ xs length
    refine ⟨xs.reverse, rfl, by rw [List.length_reverse, length], ?_⟩
    exact congrArg Except.ok xs.reverse_reverse
  have accepted : ∀ size ∈ volume.shape, pyramid.Accepts size := by
    have powers : ∀ k, pyramid.Accepts (2 ^ k) := fun k => ⟨k, rfl⟩
    simpa [volume] using And.intro (powers 1) (And.intro (powers 0) (powers 2))
  obtain ⟨every, transforms, decomposed⟩ := comes_back_along_axes
  exact ⟨⟨filled, nonempty, filledVolume, someVolume⟩, ⟨orthonormal, allowed⟩, taken, accepted,
    every backwards .forward none table filled nonempty taken,
    transforms pyramid .reverse (Option.some 1) volume orthonormal allowed filledVolume someVolume
      accepted,
    decomposed pyramid .forward (Option.some 1) table orthonormal allowed filled nonempty⟩

end Tensor

end GestureLexicon
