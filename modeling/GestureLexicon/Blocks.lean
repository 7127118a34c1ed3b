/-!
Lists cut into blocks.
-/

namespace GestureLexicon

def blocks {β : Type} (size : Nat) (xs : List β) : List (List β) :=
  if 0 < size ∧ xs ≠ [] then xs.take size :: blocks size (xs.drop size) else []
termination_by xs.length
decreasing_by
  rename_i h
  have := List.length_pos_iff.2 h.2
  simp only [List.length_drop]
  omega

end GestureLexicon
