import GestureLexicon.Proofs.Course
import GestureLexicon.Proofs.Steps

/-!
A plain walk over the words in their order. It gives every word one result, makes the results known
one after another and tells the progress after so many words at a time and after the last. Words cut
into chunks of that size lead to the same results and the same calls.
-/

namespace GestureLexicon

namespace Extractor
variable (e : Extractor Coordinate)

/-- The result of a word, which is its own outcome unless its chunk failed with a message. -/
def resultOf (failure : Option String) (word : String) : WordResult :=
  ⟨word, match failure with
    | some message => .failed message
    | none => e.outcome word⟩

/-- The results of words, each with the failure of the chunk that its place lies in. -/
def results (size : Nat) (failureOf : Nat → Option String) (words : List String) :
    List WordResult :=
  words.mapIdx fun place word => e.resultOf (failureOf (place / size)) word

theorem length_results (size : Nat) (failureOf : Nat → Option String) (words : List String) :
    (e.results size failureOf words).length = words.length := by
  rw [results, List.length_mapIdx]

theorem words_results (size : Nat) (failureOf : Nat → Option String) (words : List String) :
    (e.results size failureOf words).map WordResult.word = words := by
  apply List.ext_getElem
  · rw [List.length_map, length_results]
  · intro place _ _
    simp [results, resultOf]

theorem words_chunks (failureOf : Nat → Option String) (chunks : List (List String)) :
    (chunks.mapIdx fun index chunk => chunk.map (e.resultOf (failureOf index))).map
      (List.map WordResult.word) = chunks := by
  apply List.ext_getElem
  · simp
  · intro index _ _
    simp [resultOf, Function.comp_def]

end Extractor

/-- The calls of a walk over results of which so many are done: each is made known, and the progress
is told after every `size` of them and after the last. -/
def walkCalls (size total : Nat) : (done : Nat) → List WordResult → List BuildEvent
  | _, [] => []
  | done, result :: rest =>
    let closing := if (done + 1) % size = 0 ∨ done + 1 = total then
      [BuildEvent.progress (done + 1) total] else []
    result.call :: (closing ++ walkCalls size total (done + 1) rest)

section
variable {β γ : Type} {size : Nat}

theorem blocks_of_ne_nil (positive : 0 < size) {xs : List β} (nonempty : xs ≠ []) :
    blocks size xs = xs.take size :: blocks size (xs.drop size) := by
  rw [blocks, if_pos ⟨positive, nonempty⟩]

theorem blocks_nil (size : Nat) : blocks size ([] : List β) = [] := by
  rw [blocks, if_neg (by simp)]

theorem length_blocks_le_one {xs : List β} (few : xs.length ≤ size) :
    (blocks size xs).length ≤ 1 := by
  rw [blocks]
  split
  · rw [List.drop_of_length_le few, blocks_nil]
    rfl
  · exact Nat.zero_le 1

theorem ne_nil_of_mem_blocks {xs block : List β} (member : block ∈ blocks size xs) :
    block ≠ [] := by
  fun_induction blocks size xs with
  | case1 xs cut ih =>
    rcases List.mem_cons.mp member with rfl | later
    · have := List.length_pos_iff.mpr cut.2
      exact List.ne_nil_of_length_pos (by rw [List.length_take]; omega)
    · exact ih later
  | case2 => exact absurd member List.not_mem_nil

/-- What is done to each block by its index is done to each entry by its place. -/
theorem mapIdx_blocks (positive : 0 < size) (f : Nat → β → γ) (xs : List β) :
    (blocks size xs).mapIdx (fun index block => block.map (f index)) =
      blocks size (xs.mapIdx fun place x => f (place / size) x) := by
  fun_induction blocks size xs generalizing f with
  | case1 xs cut ih =>
    have mapped : (xs.mapIdx fun place x => f (place / size) x) ≠ [] := by
      simpa using cut.2
    have first : (xs.mapIdx fun place x => f (place / size) x).take size =
        (xs.take size).map (f 0) := by
      apply List.ext_getElem
      · simp
      · intro place below within
        have early : place < size := by
          rw [List.length_map, List.length_take] at within
          omega
        simp [Nat.div_eq_of_lt early]
    have rest : (xs.mapIdx fun place x => f (place / size) x).drop size =
        (xs.drop size).mapIdx fun place x => f (place / size + 1) x := by
      apply List.ext_getElem
      · simp
      · intro place _ _
        simp [Nat.add_div_left _ positive]
    rw [blocks_of_ne_nil positive mapped, first, rest, List.mapIdx_cons, ih]
  | case2 xs stop =>
    obtain rfl : xs = [] := by_contra fun nonempty => stop ⟨positive, nonempty⟩
    rw [List.mapIdx_nil, List.mapIdx_nil, blocks_nil]

end

theorem Extractor.length_blocks_results (e : Extractor Coordinate) {size : Nat}
    (positive : 0 < size) (failureOf : Nat → Option String) (words : List String) :
    (blocks size (e.results size failureOf words)).length = (blocks size words).length := by
  rw [results, ← mapIdx_blocks positive fun index => e.resultOf (failureOf index),
    List.length_mapIdx]

theorem walkCalls_append {size total done : Nat} {block : List WordResult} (nonempty : block ≠ [])
    (within : ∀ j, 0 < j → j < block.length → (done + j) % size ≠ 0 ∧ done + j ≠ total)
    (finish : (done + block.length) % size = 0 ∨ done + block.length = total)
    (rest : List WordResult) :
    walkCalls size total done (block ++ rest) =
      block.map WordResult.call ++ .progress (done + block.length) total ::
        walkCalls size total (done + block.length) rest := by
  induction block generalizing done with
  | nil => exact absurd rfl nonempty
  | cons result block ih =>
    rw [List.cons_append, walkCalls, List.map_cons, List.cons_append]
    cases block with
    | nil =>
      have here : (done + 1) % size = 0 ∨ done + 1 = total := finish
      rw [if_pos here]
      rfl
    | cons second block =>
      obtain ⟨inside, early⟩ := within 1 one_pos (by simp)
      have shifted (j : Nat) : done + 1 + j = done + (j + 1) := by omega
      have next := @ih (done + 1) (by simp)
        (fun j positive below => by
          rw [shifted]
          exact within (j + 1) (by omega) (by simpa using below))
        (by rwa [shifted])
      rw [if_neg (by simp [inside, early]), List.nil_append, next, shifted]
      rfl

/-- Chunk by chunk the calls are those of the walk. -/
theorem chunkCalls_blocks {size total done : Nat} (positive : 0 < size) (aligned : size ∣ done)
    (results : List WordResult) (all : done + results.length = total) :
    chunkCalls total done (blocks size results) = walkCalls size total done results := by
  fun_induction blocks size results generalizing done with
  | case1 results cut ih =>
    obtain ⟨count, rfl⟩ := aligned
    have nonempty : 0 < results.length := List.length_pos_iff.mpr cut.2
    have length : (results.take size).length = min size results.length := List.length_take
    have left : (results.drop size).length = results.length - size := List.length_drop
    have within : ∀ j, 0 < j → j < (results.take size).length →
        (size * count + j) % size ≠ 0 ∧ size * count + j ≠ total := by
      intro j started below
      rw [Nat.mul_add_mod, Nat.mod_eq_of_lt (by omega)]
      omega
    have finish : (size * count + (results.take size).length) % size = 0 ∨
        size * count + (results.take size).length = total := by
      rcases le_total size results.length with full | short
      · left
        rw [length, min_eq_left full, Nat.mul_add_mod, Nat.mod_self]
      · right
        rw [length, min_eq_right short, all]
    have walked := walkCalls_append (by simp [cut.2]; omega) within finish (results.drop size)
    rw [List.take_append_drop] at walked
    have rest : chunkCalls total (size * count + (results.take size).length)
          (blocks size (results.drop size)) =
        walkCalls size total (size * count + (results.take size).length) (results.drop size) := by
      rcases le_total size results.length with full | short
      · rw [length, min_eq_left full, ← Nat.mul_succ]
        exact ih (Nat.dvd_mul_right size _) (by rw [left, Nat.mul_succ]; omega)
      · rw [List.drop_of_length_le short, blocks_nil]
        rfl
    rw [chunkCalls, walked, rest]
  | case2 results stop =>
    obtain rfl : results = [] := by_contra fun filled => stop ⟨positive, filled⟩
    rfl

theorem WordResult.isProgress_call (result : WordResult) : result.call.isProgress = false := by
  obtain ⟨word, vector | reason | message⟩ := result <;> rfl

theorem progress_chunkCalls {size total done : Nat} (results : List WordResult) (first : Nat)
    (before : done = min (first * size) total) (all : done + results.length = total) :
    (chunkCalls total done (blocks size results)).filter BuildEvent.isProgress =
      (List.range (blocks size results).length).map fun index =>
        .progress (min ((first + index + 1) * size) total) total := by
  fun_induction blocks size results generalizing done first with
  | case1 results cut ih =>
    have nonempty : 0 < results.length := List.length_pos_iff.mpr cut.2
    have length : (results.take size).length = min size results.length := List.length_take
    have left : (results.drop size).length = results.length - size := List.length_drop
    have calls : ((results.take size).map WordResult.call).filter BuildEvent.isProgress = [] := by
      refine List.filter_eq_nil_iff.mpr fun e member => ?_
      obtain ⟨result, _, rfl⟩ := List.mem_map.mp member
      rw [result.isProgress_call]
      exact Bool.false_ne_true
    have reached : done + (results.take size).length = min ((first + 1) * size) total := by
      rw [Nat.add_mul, Nat.one_mul]
      omega
    have later := ih (first + 1) reached (by rw [length, left]; omega)
    have closing (rest : List BuildEvent) :
        (BuildEvent.progress (done + (results.take size).length) total :: rest).filter
          BuildEvent.isProgress = .progress (min ((first + 1) * size) total) total ::
            rest.filter BuildEvent.isProgress := by
      rw [reached]
      rfl
    rw [chunkCalls, List.filter_append, calls, List.nil_append, closing, later, List.length_cons,
      List.range_succ_eq_map, List.map_cons, List.map_map]
    refine congrArg (_ :: ·) (List.map_congr_left fun index _ => ?_)
    rw [Function.comp_apply, Nat.add_right_comm first 1 index]
    rfl
  | case2 => rfl

end GestureLexicon
