import GestureLexicon.Proofs.Axes

/-!
Data as a function of the places along its axes. The entries are listed place by place, the last
axis first, so any data of a shape is that of a function. With the axes in another order the data is
that of the function at the places in the former order.
-/

namespace GestureLexicon
open Matrix
variable {α β : Type} {axes : ℕ}

namespace Tensor

def places : {axes : ℕ} → (Fin axes → ℕ) → List (Fin axes → ℕ)
  | 0, _ => [vecEmpty]
  | _ + 1, sizes =>
    (List.range (sizes 0)).flatMap fun i => (places (vecTail sizes)).map (vecCons i)

def offset : {axes : ℕ} → (sizes place : Fin axes → ℕ) → ℕ
  | 0, _, _ => 0
  | _ + 1, sizes, place =>
    place 0 * (List.ofFn (vecTail sizes)).prod + offset (vecTail sizes) (vecTail place)

def ofPlaces (sizes : Fin axes → ℕ) (entry : (Fin axes → ℕ) → α) : Tensor α :=
  ⟨List.ofFn sizes, (places sizes).map entry⟩

def sizes (x : Tensor α) (axis : Fin axes) : ℕ :=
  x.shape.getD axis 0

section
variable [Zero α]

def entryAt (x : Tensor α) (place : Fin axes → ℕ) : α :=
  x.entries.getD (offset x.sizes place) 0

/-- The data with its axes in another order: which axis each of the new ones was. -/
def permuted (order : Equiv.Perm (Fin axes)) (x : Tensor α) : Tensor α :=
  ofPlaces (x.sizes ∘ order) fun place => x.entryAt (place ∘ order.symm)

end

theorem mem_places {sizes place : Fin axes → ℕ} :
    place ∈ places sizes ↔ ∀ axis, place axis < sizes axis := by
  induction axes with
  | zero => simp [places, Subsingleton.elim place vecEmpty]
  | succ axes ih =>
    rw [Fin.forall_fin_succ]
    simp only [places, List.mem_flatMap, List.mem_range, List.mem_map]
    constructor
    · rintro ⟨i, below, rest, member, rfl⟩
      exact ⟨below, ih.mp member⟩
    · rintro ⟨below, rest⟩
      exact ⟨_, below, vecTail place, ih.mpr rest, cons_head_tail place⟩

theorem map_places {axes : ℕ} (sizes : Fin (axes + 1) → ℕ) (entry : (Fin (axes + 1) → ℕ) → α) :
    (places sizes).map entry = (List.ofFn fun i : Fin (sizes 0) =>
      (places (vecTail sizes)).map fun place => entry (vecCons i place)).flatten := by
  rw [places, List.map_flatMap, List.flatMap, ← List.map_coe_finRange_eq_range, List.map_map,
    List.ofFn_eq_map]
  simp only [Function.comp_def, List.map_map]

theorem map_places_line (sizes : Fin 1 → ℕ) (entry : (Fin 1 → ℕ) → α) :
    (places sizes).map entry = List.ofFn fun i : Fin (sizes 0) => entry ![i] := by
  have alone (i : ℕ) : (places (vecTail sizes)).map (fun place => entry (vecCons i place)) =
      [entry ![i]] := rfl
  rw [map_places]
  simp only [alone]
  rw [List.ofFn_eq_map, List.ofFn_eq_map, ← List.flatMap, List.map_eq_flatMap]

def tableAt (sizes : Fin 2 → ℕ) (entry : (Fin 2 → ℕ) → α) : List (List α) :=
  tableOf fun (i : Fin (sizes 0)) (j : Fin (sizes 1)) => entry ![i, j]

def volumeAt (sizes : Fin 3 → ℕ) (entry : (Fin 3 → ℕ) → α) : List (List (List α)) :=
  List.ofFn fun k : Fin (sizes 0) => tableAt (vecTail sizes) fun place => entry (vecCons k place)

theorem each_tableAt (sizes : Fin 2 → ℕ) (entry : (Fin 2 → ℕ) → α) :
    Each (sizes 0) (Each (sizes 1) fun _ => True) (tableAt sizes entry) :=
  each_tableOf fun _ _ => trivial

theorem each_volumeAt (sizes : Fin 3 → ℕ) (entry : (Fin 3 → ℕ) → α) :
    Each (sizes 0) (Each (sizes 1) (Each (sizes 2) fun _ => True)) (volumeAt sizes entry) := by
  refine ⟨List.length_ofFn, fun slice member => ?_⟩
  obtain ⟨k, rfl⟩ := List.mem_ofFn.mp member
  exact each_tableAt (vecTail sizes) _

theorem flatten_tableAt (sizes : Fin 2 → ℕ) (entry : (Fin 2 → ℕ) → α) :
    (tableAt sizes entry).flatten = (places sizes).map entry := by
  rw [map_places]
  simp only [map_places_line]
  rfl

theorem flatten_volumeAt (sizes : Fin 3 → ℕ) (entry : (Fin 3 → ℕ) → α) :
    (volumeAt sizes entry).flatten.flatten = (places sizes).map entry := by
  rw [map_places, volumeAt, List.flatten_flatten, List.map_ofFn]
  simp only [Function.comp_def, flatten_tableAt]

theorem flatMap_range (rows width : ℕ) :
    (List.range rows).flatMap (fun i => (List.range width).map (i * width + ·)) =
      List.range (rows * width) := by
  induction rows with
  | zero => simp
  | succ rows ih =>
    rw [List.range_succ, List.flatMap_append, ih, Nat.succ_mul, List.range_add]
    simp

theorem map_offset_places (sizes : Fin axes → ℕ) :
    (places sizes).map (offset sizes) = List.range (List.ofFn sizes).prod := by
  induction axes with
  | zero => rfl
  | succ axes ih =>
    have row (i : ℕ) : ((places (vecTail sizes)).map (vecCons i)).map (offset sizes) =
        (List.range (List.ofFn (vecTail sizes)).prod).map
          (i * (List.ofFn (vecTail sizes)).prod + ·) := by
      rw [← ih, List.map_map, List.map_map]
      rfl
    rw [places, List.map_flatMap]
    simp only [row]
    rw [flatMap_range, List.ofFn_succ, List.prod_cons]
    rfl

theorem offset_getElem (sizes : Fin axes → ℕ) {k : ℕ} (below : k < (places sizes).length) :
    offset sizes (places sizes)[k] = k := by
  have within : k < ((places sizes).map (offset sizes)).length := by rwa [List.length_map]
  calc offset sizes (places sizes)[k]
    _ = ((places sizes).map (offset sizes))[k] := (List.getElem_map ..).symm
    _ = k := by simp only [map_offset_places, List.getElem_range]

section
variable (sizes : Fin axes → ℕ) (entry : (Fin axes → ℕ) → α)

theorem sizes_ofPlaces : (ofPlaces sizes entry).sizes = sizes := by
  funext axis
  simp [ofPlaces, Tensor.sizes]

theorem filled_ofPlaces : (ofPlaces sizes entry).Filled := by
  have counted := congrArg List.length (map_offset_places sizes)
  rw [List.length_map, List.length_range] at counted
  exact (List.length_map _).trans counted

variable [Zero α]

theorem entryAt_ofPlaces {place : Fin axes → ℕ} (member : place ∈ places sizes) :
    (ofPlaces sizes entry).entryAt place = entry place := by
  obtain ⟨k, below, rfl⟩ := List.getElem_of_mem member
  rw [entryAt, sizes_ofPlaces, offset_getElem]
  simp [ofPlaces, below]

theorem permuted_ofPlaces (order : Equiv.Perm (Fin axes)) :
    (ofPlaces sizes entry).permuted order =
      ofPlaces (sizes ∘ order) fun place => entry (place ∘ order.symm) := by
  rw [permuted, sizes_ofPlaces, ofPlaces, ofPlaces]
  congr 1
  apply List.map_congr_left
  intro place member
  apply entryAt_ofPlaces
  rw [mem_places] at member ⊢
  intro axis
  simpa using member (order.symm axis)

end

example : permuted (Equiv.swap (0 : Fin 2) 1) (⟨[2, 3], [1, 2, 3, 4, 5, 6]⟩ : Tensor ℕ) =
    ⟨[3, 2], [1, 4, 2, 5, 3, 6]⟩ := by rfl

example : permuted (finRotate 3) (⟨[2, 3, 1], [1, 2, 3, 4, 5, 6]⟩ : Tensor ℕ) =
    ⟨[3, 1, 2], [1, 4, 2, 5, 3, 6]⟩ := by rfl

/-- All data with so many axes is that of a function. -/
theorem Filled.exists_ofPlaces [Zero α] {x : Tensor α} (filled : x.Filled)
    (count : x.shape.length = axes) :
    ∃ (sizes : Fin axes → ℕ) (entry : (Fin axes → ℕ) → α), x = ofPlaces sizes entry := by
  have shape : List.ofFn (x.sizes : Fin axes → ℕ) = x.shape := by
    apply List.ext_getElem
    · simp [count]
    · intro axis _ within
      simp [sizes, within]
  have entries : (places (x.sizes : Fin axes → ℕ)).map x.entryAt = x.entries := by
    change (places x.sizes).map ((x.entries.getD · 0) ∘ offset x.sizes) = x.entries
    rw [← List.map_map, map_offset_places, shape, ← filled]
    apply List.ext_getElem
    · simp
    · intro k _ within
      simp [within]
  exact ⟨x.sizes, x.entryAt, by rw [ofPlaces, shape, entries]⟩

end Tensor

theorem Nesting.Lifts.ofPlaces {shape : List ℕ} {sizes : Fin axes → ℕ} {nesting : Nesting α β shape}
    {step : β → Except TransformError β} {operation : Tensor α → Except TransformError (Tensor α)}
    (lifts : nesting.Lifts step operation) (sized : List.ofFn sizes = shape)
    {nested : ((Fin axes → ℕ) → α) → β} (fits : ∀ entry, nesting.fits (nested entry))
    (joined : ∀ entry, nesting.join (nested entry) = (Tensor.places sizes).map entry)
    {entry image : (Fin axes → ℕ) → α} (sent : step (nested entry) = .ok (nested image)) :
    operation (.ofPlaces sizes entry) = .ok (.ofPlaces sizes image) := by
  subst sized
  rw [Tensor.ofPlaces, Tensor.ofPlaces, ← joined, ← joined]
  apply lifts
  · exact nesting.length_join _ (fits entry)
  · rwa [nesting.cut_join _ (fits entry)]
  · exact fits image

end GestureLexicon
