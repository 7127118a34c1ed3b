import GestureLexicon.Proofs.BuildOrder
import GestureLexicon.Proofs.Interruption

/-!
Counts of a build that is interrupted while its chunks are processed side by side. The words made
known have outcomes and the words of chunks still to arrive are cancelled, but chunks that arrived
early and wait for one before them are neither. So nothing is missing exactly if the chunks that
arrived are those that were made known. Main statement: `interrupted_counts_iff`.
-/

namespace GestureLexicon

def wordsAt (chunks : List (List String)) (indices : List Nat) : Nat :=
  (indices.map fun index => (chunks.toArray.getD index []).length).sum

section
variable (chunks : List (List String))

theorem wordsAt_append (first second : List Nat) :
    wordsAt chunks (first ++ second) = wordsAt chunks first + wordsAt chunks second := by
  rw [wordsAt, List.map_append, List.sum_append]
  rfl

theorem wordsAt_perm {first second : List Nat} (same : first.Perm second) :
    wordsAt chunks first = wordsAt chunks second :=
  (same.map _).sum_eq

theorem wordsAt_range : wordsAt chunks (List.range chunks.length) = chunks.flatten.length := by
  have listed : (List.range chunks.length).map
      (fun index => (chunks.toArray.getD index []).length) = chunks.map List.length := by
    apply List.ext_getElem
    · simp
    · intro index _ within
      have below : index < chunks.length := by simpa using within
      simp [below]
  rw [wordsAt, listed, List.length_flatten]

theorem wordsAt_eq_zero_iff {chunks : List (List String)} (filled : ∀ chunk ∈ chunks, chunk ≠ [])
    {indices : List Nat} (within : ∀ index ∈ indices, index < chunks.length) :
    wordsAt chunks indices = 0 ↔ indices = [] := by
  constructor
  · intro zero
    cases indices with
    | nil => rfl
    | cons index rest =>
      have below := within index List.mem_cons_self
      have filled := List.length_pos_iff.mpr (filled _ (List.getElem_mem below))
      have here : chunks.toArray.getD index [] = chunks[index] := by simp [below]
      rw [wordsAt, List.map_cons, List.sum_cons, here] at zero
      omega
  · rintro rfl
    rfl

theorem wordsAt_eq_foldl (indices : List Nat) (first : Nat) :
    indices.foldl (fun count index => count + (chunks.toArray.getD index []).length) first =
      first + wordsAt chunks indices := by
  induction indices generalizing first with
  | nil => rfl
  | cons index rest ih =>
    rw [List.foldl_cons, ih, wordsAt, wordsAt, List.map_cons, List.sum_cons, Nat.add_assoc]

end

namespace Sequencer
variable {o : Observer} {k total count : Nat} {resultsOf : Nat → List WordResult}
variable {arrived : List Nat}

theorem Halted.ready_eq_nil_iff {s : Sequencer} {before : List Nat}
    (halted : s.Halted o total resultsOf k count before.reverse) (after : List Nat) :
    s.ready = [] ↔ ((before ++ after).take k).Perm (List.range k) := by
  have size := halted.known.length_eq
  rw [List.length_append, List.length_range, List.length_map, List.length_reverse] at size
  have taken : (before ++ after).take k = before.take k :=
    List.take_append_of_le_length (by omega)
  rw [taken]
  constructor
  · intro empty
    rw [empty, List.length_nil] at size
    rw [List.take_of_length_le (by omega)]
    have known := halted.known
    rw [empty, List.map_nil, List.append_nil] at known
    exact before.reverse_perm.symm.trans known.symm
  · intro first
    by_contra nonempty
    obtain ⟨index, earlier, shape, missing, below, absent⟩ := halted.late
    have whole : before = earlier.reverse ++ [index] := by
      rw [← List.reverse_cons, ← shape, List.reverse_reverse]
    have longer : k ≤ earlier.reverse.length := by
      have ready := List.length_pos_iff.mpr nonempty
      rw [whole, List.length_append, List.length_singleton] at size
      omega
    rw [whole, List.take_append_of_le_length longer] at first
    have listed := List.mem_of_mem_take (first.mem_iff.mpr (List.mem_range.mpr below))
    exact absent (List.mem_reverse.mp listed)

variable {s : Sequencer} {chunks : List (List String)}

/-- A build that has ended counts the words made known and those of chunks still to arrive. The
words of chunks that wait are in neither count. -/
theorem Halted.counts (halted : s.Halted o total resultsOf k chunks.length arrived)
    (ends : o.EndsAt k)
    (sizes : ∀ index, (resultsOf index).length = (chunks.toArray.getD index []).length) :
    let final := s.cancel o chunks.toArray
    final.interrupted = true ∧ final.statistics.wasCancelled = true ∧
      final.statistics.total + final.statistics.cancelled + wordsAt chunks (s.ready.map Prod.fst) =
        chunks.flatten.length := by
  obtain ⟨run, told, cancelled⟩ := halted.cancel_eq ends chunks.toArray
  have made : (Statistics.ofEvents run.logEvents).total = wordsAt chunks (List.range k) := by
    rw [told.counted, Statistics.total_ofResults, List.length_flatten, List.map_map, wordsAt]
    exact congrArg (fun sizes => ((List.sum sizes : Nat) : Int))
      (List.map_congr_left fun index _ => sizes index)
  have left := wordsAt_eq_foldl chunks s.pending 0
  rw [Nat.zero_add] at left
  have parts := wordsAt_perm chunks ((halted.known.append_right _).trans halted.pending)
  rw [wordsAt_append, wordsAt_append, wordsAt_range] at parts
  rw [cancelled, left]
  refine ⟨rfl, rfl, ?_⟩
  change (Statistics.ofEvents run.logEvents).total +
    ((wordsAt chunks s.pending : Nat) : Int) + _ = _
  rw [made]
  omega

theorem Halted.ready_lt (halted : s.Halted o total resultsOf k count arrived) :
    ∀ index ∈ s.ready.map Prod.fst, index < count := by
  intro index waits
  have known := halted.known.mem_iff.mp (List.mem_append_right _ waits)
  exact List.mem_range.mp (halted.pending.mem_iff.mp (List.mem_append_left _ known))

end Sequencer

namespace Build

/-- A build that processes several chunks side by side, with workers to do so. -/
structure SideBySide [Text.Halves] (draft : Draft) (words : List String) (asked : Value)
    (chunks : List (List String)) : Prop where
  workers : ∃ w, workersOf draft asked = .ok w ∧ isOne w = false ∧ checkWorkers w = .ok ()
  planned : ∃ sections, plan draft words = .ok (chunks, sections)
  several : 1 < chunks.length

theorem told_opening_ends {o : Observer} {k : Nat} (ends : o.EndsAt k)
    (layout : KeyLayout Coordinate) (words : List String) (workers : Value) :
    (Run.start.tell o (opening layout words workers)).Told o words.length [] := by
  rw [Run.tell_calm ends _ rfl]
  exact (told_opening o.calm_passive layout words workers).of_calm

variable [Text.Halves]

theorem length_reportOf (layout : LayoutRecord Coordinate) (sections : List (String × Value))
    (words : List String) (failure : Option String) :
    (Sequencer.reportOf (fun chunk => processChunk chunk layout sections) words
      failure).results.length = words.length := by
  cases failure with
  | some message => exact List.length_map _
  | none =>
    rw [Sequencer.reportOf, processChunk]
    cases chunkExtractor layout sections with
    | error fault => exact List.length_map _
    | ok e => exact List.length_map _

variable {draft : Draft} {layout : KeyLayout Coordinate} {words : List String} {asked : Value}
variable {chunks : List (List String)} {o : Observer} {schedule : Schedule} {k : Nat}

theorem SideBySide.cut (parallel : SideBySide draft words asked chunks) :
    chunks.flatten = words ∧ ∀ chunk ∈ chunks, chunk ≠ [] := by
  obtain ⟨sections, planned⟩ := parallel.planned
  obtain ⟨_, n, _, _, _, rfl, _⟩ := plan_eq_ok planned
  have positive : 0 < n.toNat := by
    by_contra empty
    have several := parallel.several
    rw [blocks, if_neg fun more => empty more.1] at several
    exact absurd several (Nat.not_lt_zero 1)
  exact ⟨flatten_blocks positive words, fun _ member => ne_nil_of_mem_blocks member⟩

theorem sideBySide_ofSettings (s : Settings) {words : List String} {n : Nat} (asked : Option Nat)
    (found : workersFor s asked = some n) (several : 2 ≤ n) (counted : n ≤ mostWorkers)
    (parts : 1 < (blocks s.processing.chunkSize words).length) :
    SideBySide (.ofSettings s) words (workersValue asked)
      (blocks s.processing.chunkSize words) := by
  obtain ⟨sections, planned, _⟩ := plan_ofSettings s words
  have apart := several_apart parts several
  rw [Bool.or_eq_false_iff] at apart
  refine ⟨⟨workersValue (some n), ?_, apart.1, checkWorkers_ok several counted⟩,
    ⟨sections, planned⟩, parts⟩
  rw [workersOf_ofSettings, found]

theorem build_apart_ends {workers : Value} {sections : List (String × Value)}
    (layout : KeyLayout Coordinate) (ends : o.EndsAt k) (positive : 1 ≤ k)
    (reached : k ≤ chunks.length) (complete : schedule.Complete)
    (given : workersOf draft asked = .ok workers)
    (planned : plan draft words = .ok (chunks, sections))
    (apart : (isOne workers || chunks.length ≤ 1) = false)
    (staffed : checkWorkers workers = .ok ()) :
    let process (chunk : List String) := processChunk chunk layout.toRecord sections
    let resultsOf (index : Nat) : List WordResult :=
      (Sequencer.reportOf process (chunks.toArray.getD index [])
        (Arrival.failureOf (schedule chunks.length) index)).results
    ∃ before after s, schedule chunks.length = before ++ after ∧
      Sequencer.Halted o words.length resultsOf k chunks.length
        (before.map Arrival.index).reverse s ∧
      build draft layout words asked o schedule =
        ⟨s.cancel o chunks.toArray, some .interrupted⟩ := by
  intro process resultsOf
  have told := told_opening_ends ends layout words workers
  obtain ⟨before, after, s, split, halted, course⟩ :=
    @Sequencer.process_ends _ _ _ process _ _ _ ends told (complete chunks.length) positive reached
  have ran : Build.parallel o words.length process workers schedule chunks
      (Run.start.tell o (opening layout words workers)) =
        ⟨s.cancel o chunks.toArray, some .interrupted⟩ := by
    simp only [Build.parallel, staffed, course]
    rfl
  refine ⟨before, after, s, split, halted, ?_⟩
  rw [build_planned given planned told.going]
  simp only [apart, Bool.false_eq_true, ↓reduceIte]
  exact congrArg (finish o) ran

theorem SideBySide.build_ends (parallel : SideBySide draft words asked chunks)
    (layout : KeyLayout Coordinate) (ends : o.EndsAt k) (positive : 1 ≤ k)
    (reached : k ≤ chunks.length) (complete : schedule.Complete) :
    ∃ before after resultsOf s, schedule chunks.length = before ++ after ∧
      Sequencer.Halted o words.length resultsOf k chunks.length
        (before.map Arrival.index).reverse s ∧
      (∀ index, (resultsOf index).length = (chunks.toArray.getD index []).length) ∧
      build draft layout words asked o schedule =
        ⟨s.cancel o chunks.toArray, some .interrupted⟩ := by
  obtain ⟨w, given, several, staffed⟩ := parallel.workers
  obtain ⟨sections, planned⟩ := parallel.planned
  have apart : (isOne w || decide (chunks.length ≤ 1)) = false := by
    rw [several, Bool.false_or]
    exact decide_eq_false (not_le.mpr parallel.several)
  obtain ⟨before, after, s, split, halted, ended⟩ :=
    build_apart_ends layout ends positive reached complete given planned apart staffed
  exact ⟨before, after, _, s, split, halted,
    fun index => length_reportOf layout.toRecord sections _ _, ended⟩

/-- What such a build counts: all words but those of some chunks that wait, which there are unless
the first chunks to arrive are the first in order. -/
theorem SideBySide.counts (parallel : SideBySide draft words asked chunks) (ends : o.EndsAt k)
    (positive : 1 ≤ k) (reached : k ≤ chunks.length) (complete : schedule.Complete) :
    let report := build draft layout words asked o schedule
    let s := report.run.statistics
    let first := ((schedule chunks.length).take k).map Arrival.index
    report.fault = some .interrupted ∧ s.wasCancelled = true ∧
      ∃ waiting : Nat, s.processed + s.skipped + s.failed + s.cancelled + waiting = words.length ∧
        (waiting = 0 ↔ first.Perm (List.range k)) := by
  intro report s first
  obtain ⟨before, after, resultsOf, halt, split, halted, sizes, ended⟩ :=
    parallel.build_ends layout ends positive reached complete
  obtain ⟨whole, filled⟩ := parallel.cut
  obtain ⟨_, cancelled, counted⟩ := halted.counts ends sizes
  have early := halted.ready_eq_nil_iff (after.map Arrival.index)
  rw [← List.map_append, ← split, ← List.map_take] at early
  have zero := wordsAt_eq_zero_iff filled halted.ready_lt
  rw [List.map_eq_nil_iff] at zero
  have same : s = (halt.cancel o chunks.toArray).statistics :=
    congrArg (fun report => report.run.statistics) ended
  rw [same]
  refine ⟨congrArg BuildReport.fault ended, cancelled, wordsAt chunks (halt.ready.map Prod.fst), ?_,
    zero.trans early⟩
  rw [← whole]
  exact counted

end Build

open Build

/-- An interrupted build whose chunks were processed side by side counts every word, as one with an
outcome or as cancelled, exactly if the chunks that arrived first are the first in order. It never
counts a word twice. -/
theorem interrupted_counts_iff [Text.Halves] (draft : Draft) (layout : KeyLayout Coordinate)
    (words : List String) (asked : Value) (chunks : List (List String)) (o : Observer)
    (schedule : Schedule) (k : Nat) (parallel : SideBySide draft words asked chunks)
    (ends : o.EndsAt k) (positive : 1 ≤ k) (reached : k ≤ chunks.length)
    (complete : schedule.Complete) :
    let report := build draft layout words asked o schedule
    let s := report.run.statistics
    let first := ((schedule chunks.length).take k).map Arrival.index
    let counted := s.processed + s.skipped + s.failed + s.cancelled
    report.fault = some .interrupted ∧ s.wasCancelled = true ∧ counted ≤ words.length ∧
      (counted = words.length ↔ first.Perm (List.range k)) := by
  intro report s first counted
  obtain ⟨interrupted, cancelled, waiting, whole, early⟩ :
      report.fault = some .interrupted ∧ s.wasCancelled = true ∧
        ∃ waiting : Nat, counted + waiting = words.length ∧
          (waiting = 0 ↔ first.Perm (List.range k)) :=
    parallel.counts ends positive reached complete
  refine ⟨interrupted, cancelled, by omega, ?_⟩
  rw [← early]
  omega

/-- Of three chunks the second arrives before the first, and the build is ended with the second:
two words have outcomes and one is cancelled. -/
theorem interrupted_counts_iff_first_two :
    let s : Settings :=
      ⟨.default, .default, ⟨some ⟨2, by decide⟩, 1, by decide⟩, .default, by decide⟩
    let layout := (KeyLayout.ofRows [⟨["a", "b", "c"], 0⟩] 10 10).map Coordinate.whole
    let words := ["ab", "!", "ca"]
    let chunks := [["ab"], ["!"], ["ca"]]
    let schedule : Schedule := fun count =>
      (((List.range count).take 2).reverse ++ (List.range count).drop 2).map (⟨·, none⟩)
    let o := Observer.endingAt 2
    let report := @build .absent (.ofSettings s) layout words .null o schedule
    let counts := report.run.statistics
    @SideBySide .absent (.ofSettings s) words .null chunks ∧ o.EndsAt 2 ∧ schedule.Complete ∧
      report.fault = some .interrupted ∧
      counts.processed + counts.skipped + counts.failed + counts.cancelled = 3 := by
  intro s layout words chunks schedule o report counts
  let _ : Text.Halves := .absent
  have cut : blocks 1 words = chunks := by simp [words, chunks, blocks]
  have parallel : SideBySide (.ofSettings s) words .null chunks :=
    cut ▸ sideBySide_ofSettings s none rfl le_rfl (by decide)
      (cut ▸ (by decide : 1 < chunks.length))
  have complete : schedule.Complete := by
    intro count
    have indices : (schedule count).map Arrival.index =
        ((List.range count).take 2).reverse ++ (List.range count).drop 2 := by
      simp [schedule, Function.comp_def]
    rw [indices]
    conv_rhs => rw [← List.take_append_drop 2 (List.range count)]
    exact (List.reverse_perm _).append_right _
  have ends := Observer.endsAt_endingAt 2
  obtain ⟨interrupted, _, _, exact_iff⟩ := interrupted_counts_iff (.ofSettings s) layout words .null
    chunks o schedule 2 parallel ends (by decide) (by decide) complete
  exact ⟨parallel, ends, complete, interrupted, exact_iff.mpr (by decide)⟩

/-- Three chunks arrive in the opposite order, and the build is ended with the first: the words of
the other two are in no count. -/
theorem interrupted_counts_short :
    let s : Settings :=
      ⟨.default, .default, ⟨some ⟨2, by decide⟩, 1, by decide⟩, .default, by decide⟩
    let layout := (KeyLayout.ofRows [⟨["a", "b", "c"], 0⟩] 10 10).map Coordinate.whole
    let words := ["ab", "!", "ca"]
    let o := Observer.endingAt 1
    let report := @build .absent (.ofSettings s) layout words .null o .backwards
    let counts := report.run.statistics
    @SideBySide .absent (.ofSettings s) words .null [["ab"], ["!"], ["ca"]] ∧ o.EndsAt 1 ∧
      Schedule.backwards.Complete ∧ report.fault = some .interrupted ∧
      counts.processed + counts.skipped + counts.failed + counts.cancelled < words.length := by
  intro s layout words o report counts
  let _ : Text.Halves := .absent
  have cut : blocks 1 words = [["ab"], ["!"], ["ca"]] := by simp [words, blocks]
  have parallel : SideBySide (.ofSettings s) words .null [["ab"], ["!"], ["ca"]] :=
    cut ▸ sideBySide_ofSettings s none rfl le_rfl (by decide) (by rw [cut]; decide)
  have complete := Schedule.complete_backwards
  have ends := Observer.endsAt_endingAt 1
  obtain ⟨interrupted, _, waiting, counted, early⟩ :
      report.fault = some .interrupted ∧ counts.wasCancelled = true ∧ ∃ waiting : Nat,
        counts.processed + counts.skipped + counts.failed + counts.cancelled + waiting =
          words.length ∧ (waiting = 0 ↔ _) :=
    parallel.counts ends (by decide) (by decide) complete
  have nonzero : waiting ≠ 0 := mt early.mp (by decide)
  refine ⟨parallel, ends, complete, interrupted, ?_⟩
  omega

end GestureLexicon
