import GestureLexicon.Proofs.Acceptance
import GestureLexicon.Proofs.Linearity
import GestureLexicon.Proofs.Places

/-!
Tables and volumes with their axes in another order. A transform multiplies the lines along an axis
with weights that depend on the length alone, and such passes along two axes can be made in either
order. So data with its axes in another order goes to the same result with its axes in that order,
and the passes of a direction can be made in the order of the other one. Main statement:
`Tensor.any_axis_order`.
-/

namespace GestureLexicon
open Finset Matrix
variable {R : Type} [CommRing R]

/-- A step multiplies the lines of a length with weights. -/
def Multiplies (weights : ℕ → ℕ → R) (length : ℕ) (step : List R → Except TransformError (List R)) :
    Prop :=
  ∀ line : ℕ → R, step (List.ofFn fun p : Fin length => line p) =
    .ok (List.ofFn fun p : Fin length => ∑ q ∈ range length, weights p q * line q)

theorem ActsLinearly.exists_weights {length : ℕ} {step : List R → Except TransformError (List R)}
    (linear : ActsLinearly length step) : ∃ weights, Multiplies weights length step := by
  obtain ⟨m, sent⟩ := linear.exists_matrix
  refine ⟨fun p q => if h : p < length ∧ q < length then m ⟨p, h.1⟩ ⟨q, h.2⟩ else 0, fun line => ?_⟩
  rw [sent]
  congr 2
  funext p
  simp [mulVec, dotProduct, Finset.sum_range]

theorem Transform.exists_weights (t : Transform R) (d : Direction) {level : Option Int}
    (allowed : LevelAllowed level) : ∃ weights : ℕ → ℕ → ℕ → R, ∀ length, t.Accepts length →
      Multiplies (weights length) length (t.line.step d level) := by
  have each (length : ℕ) : ∃ weights : ℕ → ℕ → R, t.Accepts length →
      Multiplies weights length (t.line.step d level) := by
    by_cases accepted : t.Accepts length
    · obtain ⟨weights, multiplies⟩ := (t.actsLinearly d allowed accepted).exists_weights
      exact ⟨weights, fun _ => multiplies⟩
    · exact ⟨fun _ _ => 0, fun taken => absurd taken accepted⟩
  choose weights multiplies using each
  exact ⟨weights, multiplies⟩

section
variable {axes : ℕ} (weights : ℕ → ℕ → ℕ → R) (sizes : Fin axes → ℕ)

def along (axis : Fin axes) (entry : (Fin axes → ℕ) → R) (place : Fin axes → ℕ) : R :=
  ∑ q ∈ range (sizes axis),
    weights (sizes axis) (place axis) q * entry (Function.update place axis q)

def alongEach (passes : List (Fin axes)) (entry : (Fin axes → ℕ) → R) : (Fin axes → ℕ) → R :=
  passes.foldl (fun entry axis => along weights sizes axis entry) entry

theorem along_comm (axis other : Fin axes) (entry : (Fin axes → ℕ) → R) :
    along weights sizes other (along weights sizes axis entry) =
      along weights sizes axis (along weights sizes other entry) := by
  by_cases same : axis = other
  · rw [same]
  funext place
  unfold along
  simp only [Function.update_of_ne same, Function.update_of_ne (Ne.symm same), mul_sum]
  rw [sum_comm]
  apply sum_congr rfl
  intro p _
  apply sum_congr rfl
  intro q _
  rw [Function.update_comm same, mul_left_comm]

theorem alongEach_perm {passes others : List (Fin axes)} (perm : passes.Perm others)
    (entry : (Fin axes → ℕ) → R) :
    alongEach weights sizes passes entry = alongEach weights sizes others entry :=
  perm.foldl_eq' (fun axis _ other _ entry => along_comm weights sizes axis other entry) entry

variable (order : Equiv.Perm (Fin axes))

theorem along_comp (axis : Fin axes) (entry : (Fin axes → ℕ) → R) :
    along weights (sizes ∘ order) axis (fun place => entry (place ∘ order.symm)) =
      fun place => along weights sizes (order axis) entry (place ∘ order.symm) := by
  funext place
  unfold along
  apply sum_congr rfl
  intro q _
  simp only [Function.update_comp_equiv, Function.comp_apply, Equiv.symm_symm,
    Equiv.symm_apply_apply]

theorem alongEach_comp (passes : List (Fin axes)) (entry : (Fin axes → ℕ) → R) :
    alongEach weights (sizes ∘ order) passes (fun place => entry (place ∘ order.symm)) =
      fun place => alongEach weights sizes (passes.map order) entry (place ∘ order.symm) := by
  induction passes generalizing entry with
  | nil => rfl
  | cons axis passes ih =>
    change alongEach _ _ passes (along _ _ axis _) = _
    rw [along_comp, ih]
    rfl

theorem along_vecCons {sizes : Fin (axes + 1) → ℕ} (axis : Fin axes)
    (entry : (Fin (axes + 1) → ℕ) → R) (i : ℕ) :
    along weights (vecTail sizes) axis (fun place => entry (vecCons i place)) =
      fun place => along weights sizes axis.succ entry (vecCons i place) := by
  funext place
  unfold along
  apply sum_congr rfl
  intro q _
  have updated : vecCons i (Function.update place axis q) =
      Function.update (vecCons i place) axis.succ q :=
    Fin.cons_update ..
  rw [← updated, cons_val_succ]
  rfl

theorem alongEach_vecCons {sizes : Fin (axes + 1) → ℕ} (passes : List (Fin axes))
    (entry : (Fin (axes + 1) → ℕ) → R) (i : ℕ) :
    alongEach weights (vecTail sizes) passes (fun place => entry (vecCons i place)) =
      fun place => alongEach weights sizes (passes.map Fin.succ) entry (vecCons i place) := by
  induction passes generalizing entry with
  | nil => rfl
  | cons axis passes ih =>
    change alongEach _ _ passes (along _ _ axis _) = _
    rw [along_vecCons, ih]
    rfl

variable {weights sizes}

/-- A step on the line through a place is a pass along its axis. -/
theorem Multiplies.along {axis : Fin axes} {step : List R → Except TransformError (List R)}
    (multiplies : Multiplies (weights (sizes axis)) (sizes axis) step)
    (entry : (Fin axes → ℕ) → R) (place : Fin axes → ℕ) :
    step (List.ofFn fun p : Fin (sizes axis) => entry (Function.update place axis p)) =
      .ok (List.ofFn fun p : Fin (sizes axis) =>
        along weights sizes axis entry (Function.update place axis p)) := by
  rw [multiplies fun p => entry (Function.update place axis p)]
  simp only [GestureLexicon.along, Function.update_self, Function.update_idem]

end

namespace LineTransform

/-- The two directions exchanged. The steps of a direction are then those of the opposite one, which
takes the axes in the other order. -/
def turned {α : Type} (t : LineTransform α) : LineTransform α :=
  ⟨t.reverse, t.forward⟩

theorem step_turned {α : Type} (t : LineTransform α) (d : Direction) (level : Option Int) :
    t.turned.step d.opposite level = t.step d level := by
  cases d <;> rfl

open Tensor
variable {t : LineTransform R} {d : Direction} {level : Option Int} {weights : ℕ → ℕ → ℕ → R}

def passes (axes : ℕ) : Direction → List (Fin axes)
  | .forward => (List.finRange axes).reverse
  | .reverse => List.finRange axes

theorem passes_perm (axes : ℕ) (d : Direction) : (passes axes d).Perm (List.finRange axes) := by
  cases d with
  | forward => exact List.reverse_perm _
  | reverse => exact .refl _

theorem onTable_tableAt {sizes : Fin 2 → ℕ} (positive : ∀ axis, 0 < sizes axis)
    (multiplies : ∀ axis, Multiplies (weights (sizes axis)) (sizes axis) (t.step d level))
    (entry : (Fin 2 → ℕ) → R) :
    t.onTable d level (tableAt sizes entry) =
      .ok (tableAt sizes (alongEach weights sizes (passes 2 d) entry)) := by
  have first (i j p : ℕ) : Function.update ![i, j] 0 p = ![p, j] := Fin.update_cons_zero ..
  have second (i j p : ℕ) : Function.update ![i, j] 1 p = ![i, p] := by
    ext axis
    fin_cases axis <;> rfl
  have rows (entry : (Fin 2 → ℕ) → R) : (tableAt sizes entry).mapM (t.step d level) =
      .ok (tableAt sizes (along weights sizes 1 entry)) := by
    apply mapM_ofFn
    intro i
    simpa only [second] using (multiplies 1).along entry ![i, 0]
  have columns (entry : (Fin 2 → ℕ) → R) : onColumns (t.step d level) (tableAt sizes entry) =
      .ok (tableAt sizes (along weights sizes 0 entry)) := by
    apply onColumns_tableOf (positive 0) (positive 1)
    intro j
    simpa only [first] using (multiplies 0).along entry ![0, j]
  cases d with
  | forward =>
    change (tableAt sizes entry).mapM (t.step .forward level) >>= onColumns _ = _
    rw [rows]
    exact columns _
  | reverse =>
    change onColumns (t.step .reverse level) (tableAt sizes entry) >>= (·.mapM _) = _
    rw [columns]
    exact rows _

theorem onVolume_volumeAt {sizes : Fin 3 → ℕ} (positive : ∀ axis, 0 < sizes axis)
    (multiplies : ∀ axis, Multiplies (weights (sizes axis)) (sizes axis) (t.step d level))
    (entry : (Fin 3 → ℕ) → R) :
    t.onVolume d level (volumeAt sizes entry) =
      .ok (volumeAt sizes (alongEach weights sizes (passes 3 d) entry)) := by
  have tables (entry : (Fin 3 → ℕ) → R) : (volumeAt sizes entry).mapM (t.onTable d level) =
      .ok (volumeAt sizes (alongEach weights sizes ((passes 2 d).map Fin.succ) entry)) := by
    apply mapM_ofFn
    intro k
    have positive (axis : Fin 2) : 0 < vecTail sizes axis := positive axis.succ
    rw [onTable_tableAt positive fun axis => multiplies axis.succ, alongEach_vecCons]
  have across (entry : (Fin 3 → ℕ) → R) :
      onColumns (onColumns (t.step d level)) (volumeAt sizes entry) =
        .ok (volumeAt sizes (along weights sizes 0 entry)) := by
    apply onColumns_tableOf (positive 0) (positive 1)
    intro i
    apply onColumns_tableOf (positive 0) (positive 2)
    intro j
    have first (k p : ℕ) : Function.update ![k, i, j] 0 p = ![p, i, j] := Fin.update_cons_zero ..
    simpa only [first] using (multiplies 0).along entry ![0, i, j]
  cases d with
  | forward =>
    change (volumeAt sizes entry).mapM (t.onTable .forward level) >>= onColumns _ = _
    rw [tables]
    exact across _
  | reverse =>
    change onColumns (onColumns (t.step .reverse level)) (volumeAt sizes entry) >>= (·.mapM _) = _
    rw [across]
    exact tables _

end LineTransform

namespace Tensor
open LineTransform

/-- An operation on data makes passes along its axes if their lengths are accepted. -/
def MakesPasses {axes : ℕ} (accepted : ℕ → Prop) (weights : ℕ → ℕ → ℕ → R)
    (passes : List (Fin axes)) (operation : Tensor R → Except TransformError (Tensor R)) : Prop :=
  ∀ sizes : Fin axes → ℕ, (∀ axis, accepted (sizes axis)) → ∀ entry,
    operation (ofPlaces sizes entry) = .ok (ofPlaces sizes (alongEach weights sizes passes entry))

/-- Two operations give the same data, which is of the same shape, and for the data with its axes in
any order the first one gives that data with its axes in this order. -/
def AnyAxisOrder (axes : ℕ) (operation other : Tensor R → Except TransformError (Tensor R))
    (x : Tensor R) : Prop :=
  ∃ y, operation x = .ok y ∧ y.HasShape x.shape ∧ other x = .ok y ∧
    ∀ order : Equiv.Perm (Fin axes), operation (x.permuted order) = .ok (y.permuted order)

/-- Passes along all axes can be made in any order, on data with its axes in any order. -/
theorem MakesPasses.anyAxisOrder {axes : ℕ} {accepted : ℕ → Prop} {weights : ℕ → ℕ → ℕ → R}
    {passes others : List (Fin axes)}
    {operation other : Tensor R → Except TransformError (Tensor R)}
    (makes : MakesPasses accepted weights passes operation)
    (all : passes.Perm (List.finRange axes))
    (makesOther : MakesPasses accepted weights others other)
    (allOther : others.Perm (List.finRange axes)) {x : Tensor R} (filled : x.Filled)
    (count : x.shape.length = axes) (each : ∀ size ∈ x.shape, accepted size) :
    x.AnyAxisOrder axes operation other := by
  obtain ⟨sizes, entry, rfl⟩ := filled.exists_ofPlaces count
  have fine (axis : Fin axes) : accepted (sizes axis) :=
    each _ (List.mem_ofFn.mpr ⟨axis, rfl⟩)
  refine ⟨_, makes sizes fine entry, ⟨rfl, filled_ofPlaces _ _⟩, ?_, fun order => ?_⟩
  · rw [makesOther sizes fine, alongEach_perm _ _ (allOther.trans all.symm)]
  · have swapped : (passes.map order).Perm passes :=
      (all.map order).trans ((Equiv.Perm.map_finRange_perm order).trans all.symm)
    have fineSwapped (axis : Fin axes) : accepted ((sizes ∘ order) axis) := fine (order axis)
    rw [permuted_ofPlaces, permuted_ofPlaces, makes _ fineSwapped, alongEach_comp,
      alongEach_perm _ _ swapped]

variable {t : LineTransform R} {d : Direction} {level : Option Int} {weights : ℕ → ℕ → ℕ → R}

theorem makesPasses_table {accepted : ℕ → Prop} (positive : ∀ size, accepted size → 0 < size)
    (multiplies : ∀ size, accepted size → Multiplies (weights size) size (t.step d level)) :
    MakesPasses accepted weights (passes 2 d) (transformTable t d · level) := by
  intro sizes each entry
  have positive (axis : Fin 2) : 0 < sizes axis := positive _ (each axis)
  apply (lifts_table (positive 0) (positive 1)).ofPlaces rfl (each_tableAt sizes)
    (flatten_tableAt sizes)
  exact onTable_tableAt positive (fun axis => multiplies _ (each axis)) entry

theorem makesPasses_volume {accepted : ℕ → Prop} (positive : ∀ size, accepted size → 0 < size)
    (multiplies : ∀ size, accepted size → Multiplies (weights size) size (t.step d level)) :
    MakesPasses accepted weights (passes 3 d) (transformVolume t d · level) := by
  intro sizes each entry
  have positive (axis : Fin 3) : 0 < sizes axis := positive _ (each axis)
  apply (lifts_volume (positive 0) (positive 1) (positive 2)).ofPlaces rfl (each_volumeAt sizes)
    (flatten_volumeAt sizes)
  exact onVolume_volumeAt positive (fun axis => multiplies _ (each axis)) entry

/-- The order of the axes has no part in what becomes of a table or a volume, whichever the wavelet
is. Data that a transform accepts goes to the same result with its axes in any order, and the passes
of a direction can be made in the order of the other one. The accepted data is that with lines of
lengths that the transform takes. -/
theorem any_axis_order (t : Transform R) (d : Direction) (level : Option Int) (x : Tensor R)
    (allowed : LevelAllowed level) (filled : x.Filled) :
    (x.shape.length = 2 →
      ((∃ y, transformTable t.line d x level = .ok y) ↔ ∀ size ∈ x.shape, t.Accepts size) ∧
      ((∀ size ∈ x.shape, t.Accepts size) → x.AnyAxisOrder 2 (transformTable t.line d · level)
        (transformTable t.line.turned d.opposite · level))) ∧
    (x.shape.length = 3 →
      ((∃ y, transformVolume t.line d x level = .ok y) ↔ ∀ size ∈ x.shape, t.Accepts size) ∧
      ((∀ size ∈ x.shape, t.Accepts size) → x.AnyAxisOrder 3 (transformVolume t.line d · level)
        (transformVolume t.line.turned d.opposite · level))) := by
  obtain ⟨weights, multiplies⟩ := t.exists_weights d allowed
  have positive (size : ℕ) (accepted : t.Accepts size) : 0 < size := t.pos_of_accepts accepted
  have multipliesTurned : ∀ size, t.Accepts size →
      Multiplies (weights size) size (t.line.turned.step d.opposite level) := by
    simpa only [step_turned] using multiplies
  have table (two : x.shape.length = 2) (each : ∀ size ∈ x.shape, t.Accepts size) :=
    (makesPasses_table positive multiplies).anyAxisOrder (passes_perm 2 d)
      (makesPasses_table positive multipliesTurned) (passes_perm 2 d.opposite) filled two each
  have volume (three : x.shape.length = 3) (each : ∀ size ∈ x.shape, t.Accepts size) :=
    (makesPasses_volume positive multiplies).anyAxisOrder (passes_perm 3 d)
      (makesPasses_volume positive multipliesTurned) (passes_perm 3 d.opposite) filled three each
  refine ⟨fun two => ⟨⟨?_, ?_⟩, table two⟩, fun three => ⟨⟨?_, ?_⟩, volume three⟩⟩
  · rintro ⟨y, sent⟩
    exact accepts_of_transformTable allowed filled two sent
  · intro each
    obtain ⟨y, sent, _⟩ := table two each
    exact ⟨y, sent⟩
  · rintro ⟨y, sent⟩
    exact accepts_of_transformVolume allowed filled three sent
  · intro each
    obtain ⟨y, sent, _⟩ := volume three each
    exact ⟨y, sent⟩

/-- A table of three columns and a volume, on a wavelet that is not orthonormal. -/
theorem any_axis_order_three_columns :
    let w : Wavelet ℤ := ⟨none, [3, -1, 2, 5], by decide, by decide⟩
    let packet : Transform ℤ := .decomposed (.packet w)
    let pyramid : Transform ℤ := .pyramid w
    let table : Tensor ℤ := ⟨[2, 3], [1, 2, 3, 4, 5, 6]⟩
    let volume : Tensor ℤ := ⟨[2, 1, 4], [8, 7, 6, 5, 4, 3, 2, 1]⟩
    (LevelAllowed none ∧ table.Filled ∧ ∀ size ∈ table.shape, packet.Accepts size) ∧
      (LevelAllowed (some 1) ∧ volume.Filled ∧ ∀ size ∈ volume.shape, pyramid.Accepts size) ∧
      table.AnyAxisOrder 2 (transformTable packet.line .forward · none)
        (transformTable packet.line.turned .reverse · none) ∧
      volume.AnyAxisOrder 3 (transformVolume pyramid.line .reverse · (some 1))
        (transformVolume pyramid.line.turned .forward · (some 1)) := by
  intro w packet pyramid table volume
  have unbounded : LevelAllowed none := levelAllowed_map none
  have once : LevelAllowed (some 1) := levelAllowed_map (some 1)
  have filled : table.Filled ∧ volume.Filled := ⟨rfl, rfl⟩
  have positive : ∀ size ∈ [2, 3], 0 < size := by decide
  have powers (k : ℕ) : pyramid.Accepts (2 ^ k) := ⟨k, rfl⟩
  have accepted : ∀ size ∈ volume.shape, pyramid.Accepts size := by
    simpa [volume] using And.intro (powers 1) (And.intro (powers 0) (powers 2))
  exact ⟨⟨unbounded, filled.1, positive⟩, ⟨once, filled.2, accepted⟩,
    ((any_axis_order packet .forward none table unbounded filled.1).1 rfl).2 positive,
    ((any_axis_order pyramid .reverse (some 1) volume once filled.2).2 rfl).2 accepted⟩

end Tensor

end GestureLexicon
