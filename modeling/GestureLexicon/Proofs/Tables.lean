import GestureLexicon.Proofs.Steps
import GestureLexicon.Transform.Grid

/-!
Tables whose rows have one length, as functions of two places. Their columns are the same function
with the places in the other order, so the columns of the columns are the rows again. Cutting a list
into rows and joining the rows are inverse on such tables.
-/

namespace GestureLexicon
variable {β : Type}

/-- So many entries, each of which fits. -/
structure Each (count : Nat) (fits : β → Prop) (xs : List β) : Prop where
  length : xs.length = count
  fits : ∀ x ∈ xs, fits x

theorem each_true (count : Nat) : (Each count fun _ : β => True) = (·.length = count) := by
  funext xs
  exact propext ⟨Each.length, fun size => ⟨size, fun _ _ => trivial⟩⟩

def tableOf {height width : Nat} (entry : Fin height → Fin width → β) : List (List β) :=
  List.ofFn fun i => List.ofFn (entry i)

section
variable {height width : Nat} {fits : β → Prop}

theorem each_tableOf {entry : Fin height → Fin width → β} (fine : ∀ i j, fits (entry i j)) :
    Each height (Each width fits) (tableOf entry) := by
  refine ⟨List.length_ofFn, fun row member => ?_⟩
  obtain ⟨i, rfl⟩ := List.mem_ofFn.mp member
  refine ⟨List.length_ofFn, fun x among => ?_⟩
  obtain ⟨j, rfl⟩ := List.mem_ofFn.mp among
  exact fine i j

theorem Each.exists_tableOf {rows : List (List β)} (sized : Each height (Each width fits) rows) :
    ∃ entry : Fin height → Fin width → β, rows = tableOf entry ∧ ∀ i j, fits (entry i j) := by
  obtain ⟨rfl, sized⟩ := sized
  have size (i : Fin rows.length) : (rows.get i).length = width :=
    (sized _ (rows.get_mem i)).length
  refine ⟨fun i j => (rows.get i).get (j.cast (size i).symm), ?_, fun i j => ?_⟩
  · apply List.ext_get
    · simp [tableOf]
    · intro i below within
      apply List.ext_get
      · simpa [tableOf] using size ⟨i, below⟩
      · intro j _ _
        simp [tableOf]
  · exact (sized _ (rows.get_mem i)).fits _ (List.get_mem _ _)

theorem columns_tableOf (entry : Fin height → Fin width → β) (high : 0 < height) :
    columns (tableOf entry) = tableOf fun j i => entry i j := by
  have first : ((tableOf entry).headD []).length = width := by
    obtain ⟨less, rfl⟩ := Nat.exists_eq_add_of_lt high
    simp [tableOf, List.ofFn_succ]
  unfold columns
  rw [first]
  apply List.ext_getElem
  · simp [tableOf]
  · intro j below within
    have inside : j < width := by simpa using below
    simp [tableOf, List.ofFn_eq_map, List.filterMap_map, inside]

theorem each_columns {rows : List (List β)} (sized : Each height (Each width fits) rows)
    (high : 0 < height) : Each width (Each height fits) (columns rows) := by
  obtain ⟨entry, rfl, fine⟩ := sized.exists_tableOf
  rw [columns_tableOf entry high]
  exact each_tableOf fun j i => fine i j

theorem columns_columns {rows : List (List β)} (sized : Each height (Each width fits) rows)
    (high : 0 < height) (wide : 0 < width) : columns (columns rows) = rows := by
  obtain ⟨entry, rfl, _⟩ := sized.exists_tableOf
  rw [columns_tableOf entry high, columns_tableOf _ wide]

end

section
variable {count size : Nat} {fits : β → Prop}

theorem each_blocks (positive : 0 < size) {xs : List β} (sized : Each (count * size) fits xs) :
    Each count (Each size fits) (blocks size xs) := by
  have divides : size ∣ xs.length := ⟨count, sized.length.trans (Nat.mul_comm count size)⟩
  have whole : xs.length / size = count := by
    rw [sized.length, Nat.mul_div_cancel _ positive]
  have total : (List.replicate count size).sum = xs.length := by
    rw [List.sum_replicate, smul_eq_mul, sized.length]
  have joined := flatten_blocks positive xs
  have lengths := List.map_splitLengths_length xs _ total.le
  rw [blocks_eq_splitLengths positive xs divides, whole] at joined ⊢
  refine ⟨by simp, fun block member => ⟨?_, fun x among => sized.fits x ?_⟩⟩
  · have known := List.mem_map_of_mem (f := List.length) member
    rw [lengths] at known
    exact List.eq_of_mem_replicate known
  · rw [← joined]
    exact List.mem_flatten_of_mem member among

theorem each_flatten {rows : List (List β)} (sized : Each count (Each size fits) rows) :
    Each (count * size) fits rows.flatten := by
  constructor
  · rw [List.length_flatten, List.map_congr_left fun row member => (sized.fits row member).length]
    simp [sized.length]
  · intro x member
    obtain ⟨row, among, inside⟩ := List.mem_flatten.mp member
    exact (sized.fits row among).fits x inside

theorem blocks_flatten (positive : 0 < size) {rows : List (List β)}
    (sized : Each count (Each size fits) rows) : blocks size rows.flatten = rows := by
  have lengths : ∀ row ∈ rows, row.length = size := fun row member => (sized.fits row member).length
  clear sized
  induction rows with
  | nil => rw [List.flatten_nil, blocks, if_neg (by simp)]
  | cons row rows ih =>
    have length : row.length = size := lengths row List.mem_cons_self
    have nonempty : row ++ rows.flatten ≠ [] := by
      apply List.append_ne_nil_of_left_ne_nil
      exact List.ne_nil_of_length_pos (length ▸ positive)
    rw [List.flatten_cons, blocks, if_pos ⟨positive, nonempty⟩,
      List.take_left' length, List.drop_left' length,
      ih fun other member => lengths other (List.mem_cons_of_mem _ member)]

end

end GestureLexicon
