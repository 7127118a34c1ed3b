import GestureLexicon.Proofs.Passing

/-!
Where the keys of rows are. A key that occurs several times is at its last place in row-major order,
but stands among the keys where it first occurs; the layout has each key once. A layout is read back
from its record as it was. Main statement: `KeyLayout.keys_by_occurrence`.
-/

namespace GestureLexicon
variable {κ β γ δ : Type}

theorem lookup_map_values (f : String → β → γ) (key : String) (entries : List (String × β)) :
    (entries.map fun entry => (entry.1, f entry.1 entry.2)).lookup key =
      (entries.lookup key).map (f key) := by
  induction entries with
  | nil => rfl
  | cons entry entries ih =>
    obtain ⟨name, value⟩ := entry
    rw [List.map_cons, List.lookup_cons, List.lookup_cons]
    cases same : key == name with
    | true =>
      rw [eq_of_beq same]
      rfl
    | false => exact ih

namespace Positions

section
variable (p : Positions κ) (key : String) (centre : Point κ)

theorem get?_eq_none_iff : p.get? key = none ↔ key ∉ p.keys := by
  rw [get?, List.lookup_eq_none_iff, keys, List.mem_map]
  constructor
  · rintro apart ⟨entry, member, rfl⟩
    exact absurd (apart entry member) (by simp)
  · intro absent entry member
    exact bne_iff_ne.mpr fun same => absent ⟨entry, member, same.symm⟩

theorem get?_replaced (entries : List (String × Point κ)) (other : String) :
    (replaced entries key centre).lookup other =
      (entries.lookup other).map fun old => if other = key then centre else old :=
  lookup_map_values (fun name old => if name = key then centre else old) other entries

theorem get?_insert (other : String) :
    (p.insert key centre).get? other = if other = key then some centre else p.get? other := by
  unfold insert
  split_ifs with known same same
  · subst same
    obtain ⟨old, found⟩ := Option.ne_none_iff_exists'.mp
      (mt (p.get?_eq_none_iff other).mp (not_not.mpr known))
    rw [get?, get?_replaced, show p.entries.lookup other = some old from found]
    exact congrArg some (if_pos rfl)
  · rw [get?, get?_replaced]
    simp only [if_neg same, Option.map_id']
    rfl
  · subst same
    rw [get?, List.lookup_append,
      show p.entries.lookup other = none from (p.get?_eq_none_iff other).mpr known]
    exact List.lookup_cons_self
  · rw [get?, List.lookup_append, List.lookup_cons, beq_false_of_ne same]
    exact Option.or_none

theorem keys_insert :
    (p.insert key centre).keys = if key ∈ p.keys then p.keys else p.keys ++ [key] := by
  unfold insert
  split
  · exact keys_replaced p.entries key centre
  · exact List.map_append ..

end

theorem ofList_concat (entries : List (String × Point κ)) (entry : String × Point κ) :
    ofList (entries ++ [entry]) = (ofList entries).insert entry.1 entry.2 := by
  rw [ofList, List.foldl_append]
  rfl

theorem get?_ofList (entries : List (String × Point κ)) (key : String) :
    (ofList entries).get? key = entries.reverse.lookup key := by
  induction entries using List.reverseRecOn with
  | nil => rfl
  | append_singleton entries entry ih =>
    rw [ofList_concat, get?_insert, ih, List.reverse_append, List.reverse_singleton,
      List.singleton_append, List.lookup_cons]
    split_ifs with same
    · rw [beq_iff_eq.mpr same]
    · rw [beq_false_of_ne same]

end Positions

/-- The entries of a list, each of them once, in the order in which they first occur. -/
structure ByFirstOccurrence (keys occurrences : List String) : Prop where
  mem : ∀ key, key ∈ keys ↔ key ∈ occurrences
  ordered : keys.Pairwise (occurrences.idxOf · < occurrences.idxOf ·)

theorem ByFirstOccurrence.nodup {keys occurrences : List String}
    (listed : ByFirstOccurrence keys occurrences) : keys.Nodup :=
  listed.ordered.imp fun before same => (same ▸ before).false

theorem ByFirstOccurrence.concat {keys occurrences : List String}
    (listed : ByFirstOccurrence keys occurrences) (key : String) :
    ByFirstOccurrence (if key ∈ keys then keys else keys ++ [key]) (occurrences ++ [key]) := by
  have kept : keys.Pairwise ((occurrences ++ [key]).idxOf · < (occurrences ++ [key]).idxOf ·) := by
    refine listed.ordered.imp_of_mem fun first second before => ?_
    rw [List.idxOf_append_of_mem ((listed.mem _).mp first),
      List.idxOf_append_of_mem ((listed.mem _).mp second)]
    exact before
  split_ifs with known
  · refine ⟨fun other => ?_, kept⟩
    rw [List.mem_append, List.mem_singleton, ← listed.mem]
    exact ⟨.inl, fun either => either.elim id fun same => same ▸ known⟩
  · refine ⟨fun other => ?_, List.pairwise_append.mpr ⟨kept, List.pairwise_singleton _ _, ?_⟩⟩
    · rw [List.mem_append, List.mem_append, listed.mem]
    · intro other member last same
      obtain rfl := List.mem_singleton.mp same
      rw [List.idxOf_append_of_mem ((listed.mem _).mp member),
        List.idxOf_append_of_notMem (mt (listed.mem _).mpr known)]
      exact Nat.lt_add_right _ (List.idxOf_lt_length_of_mem ((listed.mem _).mp member))

theorem Positions.byFirstOccurrence_ofList (entries : List (String × Point κ)) :
    ByFirstOccurrence (ofList entries).keys (entries.map Prod.fst) := by
  induction entries using List.reverseRecOn with
  | nil => exact ⟨fun _ => Iff.rfl, .nil⟩
  | append_singleton entries entry ih =>
    rw [ofList_concat, keys_insert, List.map_append]
    exact ih.concat entry.1

theorem ByFirstOccurrence.length_eq {keys occurrences : List String}
    (listed : ByFirstOccurrence keys occurrences) :
    keys.length = occurrences.toFinset.card := by
  rw [← List.toFinset_card_of_nodup listed.nodup]
  exact congrArg Finset.card (List.toFinset.ext fun key => listed.mem key)

theorem lookup_reverse_eq_some_iff {before : β → β → Prop}
    (asymmetric : ∀ a b, before a b → ¬before b a) {entries : List (String × β)}
    (ordered : entries.Pairwise (before ·.2 ·.2)) (key : String) (value : β) :
    entries.reverse.lookup key = some value ↔
      (key, value) ∈ entries ∧ ∀ other, (key, other) ∈ entries → ¬before value other := by
  -- The induction is from the right, where the entry stands that is met first.
  induction entries using List.reverseRecOn with
  | nil => simp
  | append_singleton entries entry ih =>
    obtain ⟨name, latest⟩ := entry
    obtain ⟨earlier, -, final⟩ := List.pairwise_append.mp ordered
    have precedes : ∀ old, (name, old) ∈ entries → before old latest :=
      fun old member => final _ member _ (List.mem_singleton.mpr rfl)
    rw [List.reverse_append, List.reverse_singleton, List.singleton_append, List.lookup_cons]
    simp only [List.mem_append, List.mem_singleton, Prod.mk.injEq]
    cases same : key == name with
    | true =>
      obtain rfl := eq_of_beq same
      constructor
      · rintro found
        obtain rfl := Option.some.inj found
        refine ⟨.inr ⟨rfl, rfl⟩, ?_⟩
        rintro other (member | ⟨-, rfl⟩)
        · exact asymmetric _ _ (precedes other member)
        · exact fun self => asymmetric _ _ self self
      · rintro ⟨member | ⟨-, rfl⟩, last⟩
        · exact absurd (precedes value member) (last latest (.inr ⟨rfl, rfl⟩))
        · rfl
    | false =>
      have apart : key ≠ name := ne_of_beq_false same
      simp only [apart, false_and, or_false]
      exact ih earlier

structure KeyPlace where
  row : LayoutRow
  line : ℕ
  column : ℕ

namespace KeyPlace

def Holds (rows : List LayoutRow) (key : String) (place : KeyPlace) : Prop :=
  rows[place.line]? = some place.row ∧ place.row.keys[place.column]? = some key

/-- Rows from top to bottom, and each of them from left to right. -/
def Before (place other : KeyPlace) : Prop :=
  place.line < other.line ∨ place.line = other.line ∧ place.column < other.column

def centre (keyWidth keyHeight : ℤ) (place : KeyPlace) : Point ℤ :=
  ⟨place.row.offset + keyWidth.fdiv 2 + place.column * keyWidth,
    keyHeight.fdiv 2 + place.line * keyWidth⟩

structure Last (rows : List LayoutRow) (key : String) (place : KeyPlace) : Prop where
  holds : place.Holds rows key
  last : ∀ other : KeyPlace, other.Holds rows key → ¬place.Before other

theorem Before.asymm (place other : KeyPlace) (before : place.Before other) :
    ¬other.Before place := by
  unfold Before at before ⊢
  omega

def ofRow (row : LayoutRow) (line : ℕ) : List (String × KeyPlace) :=
  row.keys.zipIdx.map fun (key, column) => (key, ⟨row, line, column⟩)

def ofRows (rows : List LayoutRow) : List (String × KeyPlace) :=
  rows.zipIdx.flatMap fun (row, line) => ofRow row line

theorem mem_ofRow {row : LayoutRow} {line : ℕ} {key : String} {place : KeyPlace} :
    (key, place) ∈ ofRow row line ↔
      place.row = row ∧ place.line = line ∧ row.keys[place.column]? = some key := by
  rw [ofRow, List.mem_map]
  constructor
  · rintro ⟨⟨key, column⟩, member, same⟩
    obtain ⟨rfl, rfl⟩ := Prod.mk.inj same
    exact ⟨rfl, rfl, List.mem_zipIdx_iff_getElem?.mp member⟩
  · rintro ⟨rfl, rfl, found⟩
    exact ⟨(key, place.column), List.mem_zipIdx_iff_getElem?.mpr found, rfl⟩

theorem mem_ofRows {rows : List LayoutRow} {key : String} {place : KeyPlace} :
    (key, place) ∈ ofRows rows ↔ place.Holds rows key := by
  rw [ofRows, List.mem_flatMap]
  constructor
  · rintro ⟨⟨row, line⟩, listed, member⟩
    obtain ⟨rfl, rfl, found⟩ := mem_ofRow.mp member
    exact ⟨List.mem_zipIdx_iff_getElem?.mp listed, found⟩
  · rintro ⟨listed, found⟩
    exact ⟨(place.row, place.line), List.mem_zipIdx_iff_getElem?.mpr listed,
      mem_ofRow.mpr ⟨rfl, rfl, found⟩⟩

theorem pairwise_zipIdx {α : Type} (xs : List α) : xs.zipIdx.Pairwise (·.2 < ·.2) := by
  have numbers : (xs.zipIdx.map Prod.snd).Pairwise (· < ·) := by
    rw [List.zipIdx_map_snd]
    exact List.pairwise_lt_range' 1
  exact List.pairwise_map.mp numbers

theorem pairwise_ofRows (rows : List LayoutRow) :
    (ofRows rows).Pairwise fun entry other => entry.2.Before other.2 := by
  rw [ofRows, List.pairwise_flatMap]
  constructor
  · rintro ⟨row, line⟩ -
    exact List.pairwise_map.mpr ((pairwise_zipIdx row.keys).imp fun less => .inr ⟨rfl, less⟩)
  · refine (pairwise_zipIdx rows).imp ?_
    rintro ⟨row, line⟩ ⟨other, next⟩ less ⟨key, place⟩ member ⟨last, final⟩ among
    obtain ⟨-, rfl, -⟩ := mem_ofRow.mp member
    obtain ⟨-, rfl, -⟩ := mem_ofRow.mp among
    exact .inl less

end KeyPlace

namespace KeyLayout

theorem centres_eq (rows : List LayoutRow) (keyWidth keyHeight : ℤ) :
    centres rows keyWidth keyHeight =
      (KeyPlace.ofRows rows).map fun entry => (entry.1, entry.2.centre keyWidth keyHeight) := by
  have halves (size : ℤ) : size.fdiv 2 = size / 2 := Int.fdiv_eq_ediv_of_nonneg size (by decide)
  simp only [centres, KeyPlace.ofRows, KeyPlace.ofRow, List.map_flatMap, List.map_map,
    Function.comp_def, KeyPlace.centre, halves]

theorem keys_centres (rows : List LayoutRow) (keyWidth keyHeight : ℤ) :
    (centres rows keyWidth keyHeight).map Prod.fst = rows.flatMap (·.keys) := by
  have row (keys : List String) : keys.zipIdx.map (fun entry => entry.1) = keys :=
    List.zipIdx_map_fst 0 keys
  simp only [centres, List.map_flatMap, List.map_map, Function.comp_def, row]
  exact (List.flatMap_map Prod.fst LayoutRow.keys rows.zipIdx).symm.trans
    (congrArg (List.flatMap LayoutRow.keys) (List.zipIdx_map_fst 0 rows))

section
variable (rows : List LayoutRow) (keyWidth keyHeight : ℤ) (key : String)

theorem position?_ofRows_eq_some_iff (centre : Point ℤ) :
    (ofRows rows keyWidth keyHeight).position? key = some centre ↔
      ∃ place : KeyPlace, place.Last rows key ∧ centre = place.centre keyWidth keyHeight := by
  have found : (ofRows rows keyWidth keyHeight).position? key =
      ((KeyPlace.ofRows rows).reverse.lookup key).map (·.centre keyWidth keyHeight) := by
    rw [position?, ofRows, Positions.get?_ofList, centres_eq, ← List.map_reverse]
    exact lookup_map_values (fun _ => KeyPlace.centre keyWidth keyHeight) key _
  rw [found, Option.map_eq_some_iff]
  refine exists_congr fun place => and_congr ?_ eq_comm
  rw [lookup_reverse_eq_some_iff KeyPlace.Before.asymm (KeyPlace.pairwise_ofRows rows)]
  simp only [KeyPlace.mem_ofRows]
  exact ⟨fun ⟨holds, last⟩ => ⟨holds, last⟩, fun ⟨holds, last⟩ => ⟨holds, last⟩⟩

theorem byFirstOccurrence_ofRows :
    ByFirstOccurrence (ofRows rows keyWidth keyHeight).positions.keys (rows.flatMap (·.keys)) := by
  rw [← keys_centres rows keyWidth keyHeight]
  exact Positions.byFirstOccurrence_ofList _

theorem position?_ofRows_eq_none_iff :
    (ofRows rows keyWidth keyHeight).position? key = none ↔ ∀ row ∈ rows, key ∉ row.keys := by
  rw [position?, Positions.get?_eq_none_iff, (byFirstOccurrence_ofRows rows _ _).mem,
    List.mem_flatMap]
  push Not
  rfl

end

/-- Every key has its centre by its last place and its turn by its first, and no other key has one.
The sizes are those given. Any layout, of rows or not, is read back from its record with the same
entries in the same order. -/
theorem keys_by_occurrence (rows : List LayoutRow) (keyWidth keyHeight : ℤ) :
    (∀ key centre, (ofRows rows keyWidth keyHeight).position? key = some centre ↔
      ∃ place : KeyPlace, place.Last rows key ∧ centre = place.centre keyWidth keyHeight) ∧
    (∀ key, (ofRows rows keyWidth keyHeight).position? key = none ↔
      ∀ row ∈ rows, key ∉ row.keys) ∧
    (ofRows rows keyWidth keyHeight).size = (rows.flatMap (·.keys)).toFinset.card ∧
    ByFirstOccurrence (ofRows rows keyWidth keyHeight).positions.keys (rows.flatMap (·.keys)) ∧
    (ofRows rows keyWidth keyHeight).keyWidth = keyWidth ∧
    (ofRows rows keyWidth keyHeight).keyHeight = keyHeight ∧
    ∀ (κ : Type) (l : KeyLayout κ), ofRecord l.toRecord = .ok l := by
  have listed := byFirstOccurrence_ofRows rows keyWidth keyHeight
  have size : (ofRows rows keyWidth keyHeight).size =
      (ofRows rows keyWidth keyHeight).positions.keys.length := (List.length_map _).symm
  exact ⟨position?_ofRows_eq_some_iff rows keyWidth keyHeight,
    position?_ofRows_eq_none_iff rows keyWidth keyHeight, size.trans listed.length_eq, listed,
    rfl, rfl, fun _ => ofRecord_toRecord⟩

/-- The key x stands in both rows. -/
example :
    let l := ofRows [⟨["x", "a", "x"], -3⟩, ⟨["b", "x"], 5⟩] (-7) 4
    l.positions.keys = ["x", "a", "b"] ∧ l.position? "x" = some ⟨-6, -5⟩ := by
  decide

end KeyLayout

end GestureLexicon
