import GestureLexicon.Proofs.Axes

/-!
Which axis is to blame. A transform goes through the axes of a table or a volume one after another,
forward from the last one and back from the first one, and all lines along an axis are as long as
the axis. So data is refused exactly if the transform has something against the length of an axis,
and what it has against the first such length on its way is what is reported. Main statement:
`Tensor.first_axis_refused`.
-/

namespace GestureLexicon
variable {α β : Type}

/-- An objection decides what a step makes of all that fits: it is refused with the objection, or
goes to what fits if there is none. -/
def Decided (fits : β → Prop) (step : β → Except TransformError β) :
    Option TransformError → Prop
  | none => ∀ x, fits x → ∃ y, step x = .ok y ∧ fits y
  | some e => ∀ x, fits x → step x = .error e

namespace Decided
variable {fits : β → Prop} {step next : β → Except TransformError β}
  {objection later : Option TransformError} {height width : ℕ}

theorem bind (first : Decided fits step objection) (second : Decided fits next later) :
    Decided fits (step · >>= next) (objection.or later) := by
  cases objection with
  | some e =>
    intro x fine
    change step x >>= next = _
    rw [first x fine]
    rfl
  | none =>
    have goesOn (x : β) (fine : fits x) : ∃ y, step x >>= next = next y ∧ fits y := by
      obtain ⟨y, sent, kept⟩ := first x fine
      exact ⟨y, by rw [sent]; rfl, kept⟩
    cases later with
    | some e =>
      intro x fine
      obtain ⟨y, same, kept⟩ := goesOn x fine
      exact same.trans (second y kept)
    | none =>
      intro x fine
      obtain ⟨y, same, kept⟩ := goesOn x fine
      obtain ⟨z, sent, keptOn⟩ := second y kept
      exact ⟨z, same.trans sent, keptOn⟩

theorem mapM (decided : Decided fits step objection) (high : 0 < height) :
    Decided (Each height fits) (·.mapM step) objection := by
  cases objection with
  | none =>
    rintro xs ⟨length, fine⟩
    obtain ⟨ys, sent, kept, fineAfter⟩ :=
      mapM_ok_of_forall fun x member => decided x (fine x member)
    exact ⟨ys, sent, kept.trans length, fineAfter⟩
  | some e =>
    rintro xs ⟨length, fine⟩
    obtain ⟨x, xs, rfl⟩ := List.exists_cons_of_length_pos (length.symm ▸ high)
    have fails : step x = .error e := decided x (fine x List.mem_cons_self)
    change (x :: xs).mapM step = _
    rw [List.mapM_cons, fails]
    rfl

theorem onColumns {step : List β → Except TransformError (List β)}
    (decided : Decided (Each height fits) step objection) (high : 0 < height) (wide : 0 < width) :
    Decided (Each height (Each width fits)) (onColumns step) objection := by
  have turned := decided.mapM wide
  cases objection with
  | none =>
    intro rows sized
    obtain ⟨out, sent, kept⟩ := turned (columns rows) (each_columns sized high)
    refine ⟨columns out, ?_, each_columns kept wide⟩
    rw [GestureLexicon.onColumns, show (columns rows).mapM step = _ from sent]
    rfl
  | some e =>
    intro rows sized
    have fails : (columns rows).mapM step = .error e := turned _ (each_columns sized high)
    rw [GestureLexicon.onColumns, fails]
    rfl

end Decided

namespace Transform

/-- The stage that asks for a power-of-two length. A decomposed transform has none. -/
def stage? : Transform α → Option Stage
  | filter w => some (.filter w.known)
  | pyramid _ => some .pyramid
  | packet _ => some .packet
  | decomposed _ => none

def objection (t : Transform α) (length : ℕ) : Option TransformError :=
  match t.stage? with
  | some stage => if isPowerOfTwo length then none else some (.notPowerOfTwo stage length)
  | none => if length = 0 then some .emptySignal else none

variable [Zero α] [Add α] [Mul α] [Neg α] (t : Transform α) (d : Direction) {level : Option ℤ}

theorem decided_of_accepts (allowed : LevelAllowed level) {length : ℕ}
    (accepted : t.Accepts length) :
    Decided (Each length fun _ => True) (t.line.step d level) none := by
  rw [each_true]
  intro xs size
  have keeps : Keeps length (t.line.step d level) := by
    cases d with
    | forward => exact t.keeps_forward accepted
    | reverse => exact t.keeps_reverse allowed accepted
  obtain ⟨ys, sent, kept, _⟩ := keeps xs size
  exact ⟨ys, sent, kept⟩

/-- What a transform has against a length decides over the lines of that length. -/
theorem decided (allowed : LevelAllowed level) (length : ℕ) :
    Decided (Each length fun _ => True) (t.line.step d level) (t.objection length) := by
  have asked {stage : Stage} (asks : t.stage? = some stage)
      (accepts : length.isPowerOfTwo → t.Accepts length)
      (refuses : isPowerOfTwo length = false → ∀ xs, xs.length = length →
        t.line.step d level xs = .error (.notPowerOfTwo stage length)) :
      Decided (Each length fun _ => True) (t.line.step d level) (t.objection length) := by
    rw [objection, asks]
    by_cases power : isPowerOfTwo length = true
    · simp only [power, ↓reduceIte]
      exact t.decided_of_accepts d allowed (accepts ((isPowerOfTwo_iff length).mp power))
    · rw [Bool.not_eq_true] at power
      simp only [power, Bool.false_eq_true, ↓reduceIte]
      exact fun xs sized => refuses power xs sized.length
  cases t with
  | filter w =>
    refine asked rfl id ?_
    rintro other xs rfl
    cases d <;> exact if_pos (by rw [other]; rfl)
  | pyramid w =>
    refine asked rfl id ?_
    rintro other xs rfl
    cases d <;> exact if_pos (by rw [other]; rfl)
  | packet w =>
    refine asked rfl id ?_
    rintro other xs rfl
    cases d <;> exact if_pos (by rw [other]; rfl)
  | decomposed inner =>
    rw [objection, stage?]
    by_cases zero : length = 0
    · simp only [zero, ↓reduceIte]
      intro xs sized
      obtain rfl := List.length_eq_zero_iff.mp sized.length
      cases d <;> rfl
    · simp only [zero, ↓reduceIte]
      exact (decomposed inner).decided_of_accepts d allowed (Nat.pos_of_ne_zero zero)

end Transform

/-- The sizes of a shape in the order in which a direction goes through its axes. -/
def Direction.order (d : Direction) (shape : List ℕ) : List ℕ :=
  match d with
  | .forward => shape.reverse
  | .reverse => shape

namespace Transform

def firstObjection (t : Transform α) (order : List ℕ) : Option TransformError :=
  order.findSome? t.objection

section
variable {t : Transform α} {stage : Stage}

theorem firstObjection_append (before after : List ℕ) :
    t.firstObjection (before ++ after) = (t.firstObjection before).or (t.firstObjection after) :=
  List.findSome?_append

theorem firstObjection_singleton (length : ℕ) : t.firstObjection [length] = t.objection length :=
  List.findSome?_singleton

theorem firstObjection_forward (length : ℕ) (shape : List ℕ) :
    t.firstObjection (Direction.forward.order (length :: shape)) =
      (t.firstObjection (Direction.forward.order shape)).or (t.objection length) := by
  simp only [Direction.order, List.reverse_cons]
  rw [firstObjection_append, firstObjection_singleton]

theorem firstObjection_reverse (length : ℕ) (shape : List ℕ) :
    t.firstObjection (Direction.reverse.order (length :: shape)) =
      (t.objection length).or (t.firstObjection (Direction.reverse.order shape)) := by
  rw [← firstObjection_singleton, ← firstObjection_append]
  rfl

theorem objection_of_asks (asks : t.stage? = some stage) (length : ℕ) :
    t.objection length =
      if isPowerOfTwo length then none else some (.notPowerOfTwo stage length) := by
  rw [objection, asks]

theorem firstObjection_eq_none_iff (asks : t.stage? = some stage) (order : List ℕ) :
    t.firstObjection order = none ↔ ∀ size ∈ order, size.isPowerOfTwo := by
  simp only [firstObjection, List.findSome?_eq_none_iff, objection_of_asks asks, ← isPowerOfTwo_iff,
    ite_eq_left_iff, reduceCtorEq, imp_false, not_not]

theorem firstObjection_of_first (asks : t.stage? = some stage) {before after : List ℕ} {size : ℕ}
    (fine : ∀ other ∈ before, other.isPowerOfTwo) (other : ¬size.isPowerOfTwo) :
    t.firstObjection (before ++ size :: after) = some (.notPowerOfTwo stage size) := by
  have passed := (firstObjection_eq_none_iff asks before).mpr fine
  rw [← isPowerOfTwo_iff, Bool.not_eq_true] at other
  rw [firstObjection_append, passed, ← List.singleton_append, firstObjection_append,
    firstObjection_singleton, objection_of_asks asks, other]
  rfl

theorem firstObjection_decomposed (inner : Transform α) {order : List ℕ}
    (positive : ∀ size ∈ order, 0 < size) : (decomposed inner).firstObjection order = none := by
  refine List.findSome?_eq_none_iff.mpr fun size member => ?_
  exact if_neg (positive size member).ne'

end

variable [Zero α] [Add α] [Mul α] [Neg α] (t : Transform α) (d : Direction) {level : Option ℤ}
  {depth height width : ℕ}

theorem decided_onTable (allowed : LevelAllowed level) (high : 0 < height) (wide : 0 < width) :
    Decided (Each height (Each width fun _ => True)) (t.line.onTable d level)
      (t.firstObjection (d.order [height, width])) := by
  have rows := (t.decided d allowed width).mapM high
  have columns := (t.decided d allowed height).onColumns high wide
  rw [← t.firstObjection_singleton width] at rows
  cases d with
  | forward =>
    rw [firstObjection_forward]
    exact rows.bind columns
  | reverse =>
    rw [firstObjection_reverse]
    exact columns.bind rows

theorem decided_onVolume (allowed : LevelAllowed level) (deep : 0 < depth) (high : 0 < height)
    (wide : 0 < width) :
    Decided (Each depth (Each height (Each width fun _ => True))) (t.line.onVolume d level)
      (t.firstObjection (d.order [depth, height, width])) := by
  have tables := (t.decided_onTable d allowed high wide).mapM deep
  have across := ((t.decided d allowed depth).onColumns deep wide).onColumns deep high
  cases d with
  | forward =>
    rw [firstObjection_forward]
    exact tables.bind across
  | reverse =>
    rw [firstObjection_reverse]
    exact across.bind tables

end Transform

/-- What is decided over nested lists is decided over the data that is cut into these. -/
theorem Nesting.decided {shape : List ℕ} (nesting : Nesting α β shape)
    {step : β → Except TransformError β} {operation : Tensor α → Except TransformError (Tensor α)}
    {objection : Option TransformError}
    (same : ∀ xs, xs.length = shape.prod → operation ⟨shape, xs⟩ =
      step (nesting.cut xs) >>= fun out => .ok ⟨shape, nesting.join out⟩)
    (decided : Decided nesting.fits step objection) :
    Decided (Tensor.HasShape shape) operation objection := by
  cases objection with
  | none =>
    rintro ⟨_, xs⟩ ⟨rfl, filled⟩
    obtain ⟨out, sent, kept⟩ := decided (nesting.cut xs) (nesting.fits_cut xs filled)
    refine ⟨⟨_, nesting.join out⟩, ?_, rfl, nesting.length_join out kept⟩
    rw [same xs filled, sent]
    rfl
  | some e =>
    rintro ⟨_, xs⟩ ⟨rfl, filled⟩
    rw [same xs filled, show step (nesting.cut xs) = _ from
      decided (nesting.cut xs) (nesting.fits_cut xs filled)]
    rfl

namespace Tensor

/-- Data of a shape is accepted, and keeps the shape, exactly if all its sizes are powers of two. If
not, it is refused with the first size in an order that is none. -/
structure RefusedAtFirst (stage : Stage) (order shape : List ℕ)
    (result : Except TransformError (Tensor α)) : Prop where
  accepted : (∃ y, result = .ok y) ↔ ∀ size ∈ shape, size.isPowerOfTwo
  kept : ∀ y, result = .ok y → y.HasShape shape
  refused : ∀ before size after, order = before ++ size :: after →
    (∀ other ∈ before, other.isPowerOfTwo) → ¬size.isPowerOfTwo →
      result = .error (.notPowerOfTwo stage size)

theorem refusedAtFirst {t : Transform α} {stage : Stage} (asks : t.stage? = some stage)
    {operation : Tensor α → Except TransformError (Tensor α)} {order shape : List ℕ}
    (axes : ∀ size, size ∈ order ↔ size ∈ shape)
    (decided : Decided (HasShape shape) operation (t.firstObjection order)) {x : Tensor α}
    (sized : x.HasShape shape) : RefusedAtFirst stage order shape (operation x) := by
  by_cases powers : ∀ size ∈ order, size.isPowerOfTwo
  · rw [(Transform.firstObjection_eq_none_iff asks order).mpr powers] at decided
    obtain ⟨y, sent, kept⟩ := decided x sized
    refine ⟨iff_of_true ⟨y, sent⟩ fun size axis => powers size ((axes size).mpr axis), ?_, ?_⟩
    · intro z sentAlso
      obtain rfl := Except.ok.inj (sent.symm.trans sentAlso)
      exact kept
    · rintro before size after rfl _ other
      exact absurd (powers size (by simp)) other
  · obtain ⟨e, objected⟩ := Option.ne_none_iff_exists'.mp
      (mt (Transform.firstObjection_eq_none_iff asks order).mp powers)
    rw [objected] at decided
    have fails : operation x = .error e := decided x sized
    refine ⟨iff_of_false ?_ ?_, ?_, ?_⟩
    · exact fun ⟨y, sent⟩ => nomatch fails.symm.trans sent
    · exact fun each => powers fun size axis => each size ((axes size).mp axis)
    · exact fun y sent => nomatch fails.symm.trans sent
    · rintro before size after rfl fine other
      rw [Transform.firstObjection_of_first asks fine other] at objected
      rw [fails, Option.some.inj objected]

theorem mem_order (d : Direction) (shape : List ℕ) (size : ℕ) :
    size ∈ d.order shape ↔ size ∈ shape := by
  cases d with
  | forward => exact List.mem_reverse
  | reverse => exact Iff.rfl

variable [Zero α] [Add α] [Mul α] [Neg α] {level : Option ℤ} {depth height width : ℕ}

theorem decided_transformTable (t : Transform α) (d : Direction) (allowed : LevelAllowed level)
    (high : 0 < height) (wide : 0 < width) :
    Decided (HasShape [height, width]) (transformTable t.line d · level)
      (t.firstObjection (d.order [height, width])) := by
  refine (Nesting.table height wide).decided ?_ (t.decided_onTable d allowed high wide)
  intro xs length
  refine transformTable_eq (List.ne_nil_of_length_pos ?_)
  rw [length]
  simp [high, wide]

theorem decided_transformVolume (t : Transform α) (d : Direction) (allowed : LevelAllowed level)
    (deep : 0 < depth) (high : 0 < height) (wide : 0 < width) :
    Decided (HasShape [depth, height, width]) (transformVolume t.line d · level)
      (t.firstObjection (d.order [depth, height, width])) := by
  refine (Nesting.volume depth high wide).decided ?_ (t.decided_onVolume d allowed deep high wide)
  intro xs length
  refine transformVolume_eq (List.ne_nil_of_length_pos ?_)
  rw [length]
  simp [deep, high, wide]

/-- A transform that asks for powers of two accepts a table or a volume exactly if all axes have
such lengths. Otherwise it reports the first length that is none, on the way there from the last
axis to the first and on the way back from the first to the last. Decomposed it accepts all that
has entries. -/
theorem first_axis_refused (level : Option ℤ) (x : Tensor α) (allowed : LevelAllowed level)
    (filled : x.Filled) (nonempty : x.entries ≠ []) :
    (∀ (t : Transform α) (stage : Stage) (d : Direction), t.stage? = some stage →
      (x.shape.length = 2 → RefusedAtFirst stage (d.order x.shape) x.shape
        (transformTable t.line d x level)) ∧
      (x.shape.length = 3 → RefusedAtFirst stage (d.order x.shape) x.shape
        (transformVolume t.line d x level))) ∧
    ∀ (inner : Transform α) (d : Direction),
      (x.shape.length = 2 → ∃ y, transformTable inner.line.decomposed d x level = .ok y ∧
        y.HasShape x.shape) ∧
      (x.shape.length = 3 → ∃ y, transformVolume inner.line.decomposed d x level = .ok y ∧
        y.HasShape x.shape) := by
  have positive : ∀ size ∈ x.shape, 0 < size := fun _ => filled.pos_of_mem nonempty
  have sized : x.HasShape x.shape := ⟨rfl, filled⟩
  have table (two : x.shape.length = 2) (t : Transform α) (d : Direction) :
      Decided (HasShape x.shape) (transformTable t.line d · level)
        (t.firstObjection (d.order x.shape)) := by
    obtain ⟨height, width, shape⟩ := List.length_eq_two.mp two
    rw [shape] at positive ⊢
    simp only [List.forall_mem_cons] at positive
    exact decided_transformTable t d allowed positive.1 positive.2.1
  have volume (three : x.shape.length = 3) (t : Transform α) (d : Direction) :
      Decided (HasShape x.shape) (transformVolume t.line d · level)
        (t.firstObjection (d.order x.shape)) := by
    obtain ⟨depth, height, width, shape⟩ := List.length_eq_three.mp three
    rw [shape] at positive ⊢
    simp only [List.forall_mem_cons] at positive
    exact decided_transformVolume t d allowed positive.1 positive.2.1 positive.2.2.1
  constructor
  · intro t stage d asks
    exact ⟨fun two => refusedAtFirst asks (mem_order d x.shape) (table two t d) sized,
      fun three => refusedAtFirst asks (mem_order d x.shape) (volume three t d) sized⟩
  · intro inner d
    have silent : (Transform.decomposed inner).firstObjection (d.order x.shape) = none :=
      Transform.firstObjection_decomposed inner fun size axis =>
        positive size ((mem_order d x.shape size).mp axis)
    have accepts {operation : Tensor α → Except TransformError (Tensor α)}
        (decided : Decided (HasShape x.shape) operation
          ((Transform.decomposed inner).firstObjection (d.order x.shape))) :
        ∃ y, operation x = .ok y ∧ y.HasShape x.shape := by
      rw [silent] at decided
      exact decided x sized
    exact ⟨fun two => accepts (table two (.decomposed inner) d),
      fun three => accepts (volume three (.decomposed inner) d)⟩

/-- A volume whose first and last axis are at fault, the last one on the way there and the first one
on the way back, and a table of three columns. -/
theorem first_axis_refused_three :
    let packet : Transform ℤ := .packet ⟨none, [1, 1], le_rfl, rfl⟩
    let volume : Tensor ℤ := ⟨[3, 1, 5], [3, 1, 4, 1, 5, 9, 2, 6, 5, 3, 5, 8, 9, 7, 9]⟩
    let table : Tensor ℤ := ⟨[2, 3], [3, 1, 4, 1, 5, 9]⟩
    LevelAllowed (some 0) ∧ (volume.Filled ∧ volume.entries ≠ []) ∧
      (table.Filled ∧ table.entries ≠ []) ∧
      transformVolume packet.line .forward volume (some 0) = .error (.notPowerOfTwo .packet 5) ∧
      transformVolume packet.line .reverse volume (some 0) = .error (.notPowerOfTwo .packet 3) ∧
      (∃ y, transformVolume packet.line.decomposed .reverse volume (some 0) = .ok y) ∧
      ∃ y, transformTable packet.line.decomposed .forward table (some 0) = .ok y := by
  intro packet volume table
  have allowed : LevelAllowed (some 0) := by
    rintro bound ⟨rfl⟩
    exact le_rfl
  have filled : volume.Filled := rfl
  have filledTable : table.Filled := rfl
  have nonempty : volume.entries ≠ [] := List.cons_ne_nil _ _
  have someTable : table.entries ≠ [] := List.cons_ne_nil _ _
  obtain ⟨asked, cut⟩ := first_axis_refused (some 0) volume allowed filled nonempty
  obtain ⟨_, cutTable⟩ := first_axis_refused (some 0) table allowed filledTable someTable
  have five : ¬(5 : ℕ).isPowerOfTwo := by
    rw [← isPowerOfTwo_iff]
    decide
  have three : ¬(3 : ℕ).isPowerOfTwo := by
    rw [← isPowerOfTwo_iff]
    decide
  have there := ((asked packet .packet .forward rfl).2 rfl).refused [] 5 [1, 3] rfl (by simp) five
  have back := ((asked packet .packet .reverse rfl).2 rfl).refused [] 3 [1, 5] rfl (by simp) three
  obtain ⟨y, sent, _⟩ := (cut packet .reverse).2 rfl
  obtain ⟨z, sentTable, _⟩ := (cutTable packet .forward).1 rfl
  exact ⟨allowed, ⟨filled, nonempty⟩, ⟨filledTable, someTable⟩, there, back, ⟨y, sent⟩, z,
    sentTable⟩

end Tensor

end GestureLexicon
