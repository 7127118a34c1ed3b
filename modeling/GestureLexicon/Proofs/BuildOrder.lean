import GestureLexicon.Proofs.Sequencing
import GestureLexicon.Proofs.Walk

/-!
Builds in the order of the words. However many workers there are, in whatever order their chunks
arrive and whichever of these fail, a build makes the calls of a plain walk over the words and counts
the results of that walk. Only a number of workers that is beyond counting is refused, and then
before any word is processed. Main statement: `build_eq_walk`.
-/

namespace GestureLexicon

namespace Build

def workersValue : Option Nat → Value
  | none => .null
  | some n => .whole n

def workersFor (s : Settings) (asked : Option Nat) : Option Nat :=
  asked.or (s.processing.maxWorkers.map Subtype.val)

/-- Chunks are processed one by one by a single worker, and if there is no more than one. -/
abbrev OneByOne (workers : Option Nat) (chunks : Nat) : Prop :=
  workers = some 1 ∨ chunks ≤ 1

/-- More workers for several chunks than can be counted. -/
def Overstaffed (workers : Option Nat) (chunks : Nat) : Prop :=
  1 < chunks ∧ ∃ n, workers = some n ∧ mostWorkers < n

/-- The failures of chunks by their index. Only chunks processed side by side can fail. -/
def failureOf (workers : Option Nat) (schedule : Schedule) (chunks : Nat) : Nat → Option String :=
  if OneByOne workers chunks then fun _ => none else Arrival.failureOf (schedule chunks)

theorem workersOf_ofSettings (s : Settings) (asked : Option Nat) :
    workersOf (.ofSettings s) (workersValue asked) = .ok (workersValue (workersFor s asked)) := by
  cases asked with
  | some n => rfl
  | none =>
    have given : (Draft.ofSettings s).get .processing "max_workers" =
        .ok ((s.processing.maxWorkers.map fun n => .whole n.1).getD .null) := rfl
    change ((Draft.ofSettings s).get .processing "max_workers").mapError BuildFault.missing = _
    rw [given, workersFor]
    cases s.processing.maxWorkers <;> rfl

theorem isOne_workersValue (workers : Option Nat) :
    isOne (workersValue workers) = true ↔ workers = some 1 := by
  cases workers with
  | none => simp [workersValue, isOne]
  | some n =>
    have same : isOne (workersValue (some n)) = ((n : Int) == 1) := rfl
    rw [same, beq_iff_eq, Option.some_inj]
    omega

theorem alone_iff (workers : Option Nat) (chunks : Nat) :
    (isOne (workersValue workers) || chunks ≤ 1) = true ↔ OneByOne workers chunks := by
  rw [Bool.or_eq_true, isOne_workersValue, decide_eq_true_eq]

theorem workersFor_positive {s : Settings} {asked : Option Nat}
    (positive : ∀ n, asked = some n → 1 ≤ n) (n : Nat)
    (found : workersFor s asked = some n) : 1 ≤ n := by
  cases asked with
  | some m => exact positive n found
  | none =>
    obtain ⟨workers, _, rfl⟩ := Option.map_eq_some_iff.mp found
    exact workers.2

theorem checkWorkers_workersValue {workers : Option Nat}
    (positive : ∀ n, workers = some n → 1 ≤ n) :
    checkWorkers (workersValue workers) =
      if ∃ n, workers = some n ∧ mostWorkers < n then .error .tooManyWorkers else .ok () := by
  cases workers with
  | none => simp [workersValue, checkWorkers]
  | some n =>
    have staffed : ¬(n : Int) < 1 := by
      have := positive n rfl
      omega
    have counted : (∃ m, Option.some n = Option.some m ∧ mostWorkers < m) ↔
        (mostWorkers : Int) < n := by
      simp
    change (if (n : Int) < 1 then _ else _) = _
    rw [if_neg staffed]
    exact if_congr counted.symm rfl rfl

theorem workersOf_any (s : Settings) (asked : Value) :
    ∃ workers, workersOf (.ofSettings s) asked = .ok workers := by
  cases asked <;> exact ⟨_, rfl⟩

theorem workersOf_asked (d : Draft) (n : Nat) :
    workersOf d (workersValue (some n)) = .ok (workersValue (some n)) := rfl

section
variable {n : Nat}

theorem several_apart {chunks : List (List String)} (parts : 1 < chunks.length)
    (several : 2 ≤ n) : (isOne (workersValue (some n)) || chunks.length ≤ 1) = false := by
  refine Bool.eq_false_iff.mpr (mt (alone_iff _ _).mp ?_)
  rintro (one | few)
  · obtain rfl := Option.some.inj one
    exact absurd several (by decide)
  · exact absurd parts (not_lt.mpr few)

theorem positive_of_several (several : 2 ≤ n) : ∀ m, some n = some m → 1 ≤ m := by
  intro m same
  obtain rfl := Option.some.inj same
  exact Nat.one_le_of_lt several

theorem checkWorkers_ok (several : 2 ≤ n) (counted : n ≤ mostWorkers) :
    checkWorkers (workersValue (some n)) = .ok () := by
  rw [checkWorkers_workersValue (positive_of_several several), if_neg]
  rintro ⟨m, same, beyond⟩
  obtain rfl := Option.some.inj same
  exact absurd counted (not_le.mpr beyond)

end

end Build

namespace Extractor
variable (e : Extractor Coordinate) {process : List String → Except ChunkFault ChunkReport}

theorem silent_report (words : List String) :
    ∀ event ∈ (e.report words).log.map BuildEvent.logged, event.Silent := by
  intro event member
  obtain ⟨entry, logged, rfl⟩ := List.mem_map.mp member
  obtain ⟨word, _, found⟩ := List.mem_filterMap.mp logged
  have path : entry.isOutcome = false := by
    rw [pathEvent?] at found
    split at found
    · obtain rfl := Option.some.inj found
      rfl
    · exact nomatch found
  exact ⟨rfl, fun other same => Option.some.inj same ▸ path⟩

theorem results_report (words : List String) :
    (e.report words).results = words.map (e.resultOf none) := rfl

theorem results_reportOf (sound : ∀ chunk, process chunk = .ok (e.report chunk))
    (words : List String) (failure : Option String) :
    (Sequencer.reportOf process words failure).results = words.map (e.resultOf failure) := by
  cases failure with
  | some message => rfl
  | none =>
    rw [Sequencer.reportOf, sound]
    rfl

end Extractor

theorem Extractor.results_arrived (e : Extractor Coordinate)
    {process : List String → Except ChunkFault ChunkReport}
    (sound : ∀ chunk, process chunk = .ok (e.report chunk)) (arrivals : List Arrival)
    (chunks : List (List String)) :
    arrivedResults process arrivals chunks = chunks.mapIdx fun index chunk =>
      chunk.map (e.resultOf (Arrival.failureOf arrivals index)) := by
  unfold arrivedResults
  apply List.ext_getElem
  · simp
  · intro index below _
    have within : index < chunks.length := by simpa using below
    simp [e.results_reportOf sound, within]

namespace Build
variable {o : Observer} {total : Nat} {run : Run} {before : List (List WordResult)}
variable (e : Extractor Coordinate) {process : List String → Except ChunkFault ChunkReport}

theorem inline_told (passive : o.Passive) (sound : ∀ chunk, process chunk = .ok (e.report chunk))
    (chunks : List (List String)) (told : run.Told o total before) :
    ∃ final, inline o total process chunks run = ⟨final, none⟩ ∧
      final.Told o total (before ++ chunks.map (List.map (e.resultOf none))) := by
  induction chunks generalizing run before with
  | nil => exact ⟨run, rfl, (List.append_nil before).symm ▸ told⟩
  | cons chunk chunks ih =>
    have emitted := (told.tellAll passive (e.silent_report chunk)).emit passive
      (e.report chunk).results
    obtain ⟨final, rest, known⟩ := ih emitted
    refine ⟨final, ?_, ?_⟩
    · rw [inline, sound]
      simp only [emitted.going, Bool.false_eq_true, ↓reduceIte]
      exact rest
    · rw [List.append_assoc, e.results_report] at known
      exact known

/-- Chunks processed side by side are all made known, in order, whatever becomes of them. -/
theorem parallel_told (process : List String → Except ChunkFault ChunkReport)
    (passive : o.Passive) (chunks : List (List String)) {schedule : Schedule}
    (complete : schedule.Complete) {workers : Value} (counted : checkWorkers workers = .ok ())
    (told : run.Told o total []) :
    ∃ final, parallel o total process workers schedule chunks run = ⟨final, none⟩ ∧
      final.Told o total (arrivedResults process (schedule chunks.length) chunks) := by
  have finished := Sequencer.told_process process chunks passive told (complete chunks.length)
  refine ⟨_, ?_, finished⟩
  rw [parallel, counted]
  simp only [finished.going, Bool.false_eq_true, ↓reduceIte]

theorem finish_told (passive : o.Passive) (told : run.Told o total before) :
    ∃ final, finish o ⟨run, none⟩ = ⟨final, none⟩ ∧ final.Told o total before := by
  have ended := told.tell passive (e := .logged (.completed run.statistics.processed
    run.statistics.skipped run.statistics.failed)) ⟨rfl, fun _ same => Option.some.inj same ▸ rfl⟩
  refine ⟨_, ?_, ended⟩
  simp only [finish, ended.going, Bool.false_eq_true, ↓reduceIte]

variable {s : Settings} {layout : KeyLayout Coordinate} {words : List String}
variable {asked : Option Nat} {schedule : Schedule}

def extractorOf (s : Settings) (layout : KeyLayout Coordinate) : Extractor Coordinate :=
  ⟨layout, s.features, s.resample, s.fits⟩

/-- The results of a build: those of a walk over the words with the failures that its chunks have. -/
def resultsOf (s : Settings) (layout : KeyLayout Coordinate) (words : List String)
    (asked : Option Nat) (schedule : Schedule) : List WordResult :=
  let size := s.processing.chunkSize
  (extractorOf s layout).results size
    (failureOf (workersFor s asked) schedule (blocks size words).length) words

theorem resultsOf_alone (sound : ∀ k, failureOf (workersFor s asked) schedule
    (blocks s.processing.chunkSize words).length k = none) :
    resultsOf s layout words asked schedule = resultsOf s layout words (some 1) schedule := by
  have one : failureOf (workersFor s (some 1)) schedule
      (blocks s.processing.chunkSize words).length = fun _ => none := if_pos (.inl rfl)
  rw [resultsOf, resultsOf, one, funext sound]

abbrev opening (layout : KeyLayout Coordinate) (words : List String) (workers : Value) :
    BuildEvent :=
  .logged (.started words.length layout.size workers)

theorem silent_opening (layout : KeyLayout Coordinate) (words : List String) (workers : Value) :
    (opening layout words workers).Silent :=
  ⟨rfl, fun _ same => Option.some.inj same ▸ rfl⟩

theorem told_opening (passive : o.Passive) (layout : KeyLayout Coordinate) (words : List String)
    (workers : Value) :
    (Run.start.tell o (opening layout words workers)).Told o words.length [] :=
  (Run.told_start o words.length).tell passive (silent_opening layout words workers)

variable [Text.Halves]

theorem build_planned {draft : Draft} {asked workers : Value} {chunks : List (List String)}
    {sections : List (String × Value)} (given : workersOf draft asked = .ok workers)
    (planned : plan draft words = .ok (chunks, sections))
    (going : (Run.start.tell o (opening layout words workers)).interrupted = false) :
    build draft layout words asked o schedule =
      let run := Run.start.tell o (opening layout words workers)
      let process (chunk : List String) := processChunk chunk layout.toRecord sections
      finish o (
        if isOne workers || chunks.length ≤ 1 then inline o words.length process chunks run
        else parallel o words.length process workers schedule chunks run) := by
  simp only [build, given, going, Bool.false_eq_true, ↓reduceIte, planned]

section
variable {draft : Draft} {asked workers : Value} {chunks : List (List String)}
variable {sections : List (String × Value)}

theorem build_alone (schedule : Schedule) (passive : o.Passive)
    (given : workersOf draft asked = .ok workers)
    (planned : plan draft words = .ok (chunks, sections))
    (found : chunkExtractor layout.toRecord sections = .ok e)
    (alone : (isOne workers || chunks.length ≤ 1) = true) :
    ∃ final, build draft layout words asked o schedule = ⟨final, none⟩ ∧
      final.Told o words.length (chunks.map (List.map (e.resultOf none))) := by
  have started := told_opening passive layout words workers
  obtain ⟨told, ran, known⟩ := inline_told e passive (processChunk_ok found) chunks started
  obtain ⟨final, finished, ended⟩ := finish_told passive known
  refine ⟨final, ?_, ended⟩
  rw [build_planned given planned started.going]
  simp only [alone, ↓reduceIte, ran, finished]

/-- A build whose chunks are processed side by side returns and has made all of them known. -/
theorem build_apart (layout : KeyLayout Coordinate) (passive : o.Passive)
    (complete : schedule.Complete) (given : workersOf draft asked = .ok workers)
    (planned : plan draft words = .ok (chunks, sections))
    (apart : (isOne workers || chunks.length ≤ 1) = false)
    (staffed : checkWorkers workers = .ok ()) :
    ∃ final, build draft layout words asked o schedule = ⟨final, none⟩ ∧
      final.Told o words.length (arrivedResults
        (fun chunk => processChunk chunk layout.toRecord sections) (schedule chunks.length)
        chunks) := by
  have started := told_opening passive layout words workers
  obtain ⟨told, ran, known⟩ := parallel_told
    (fun chunk => processChunk chunk layout.toRecord sections) passive chunks complete staffed
    started
  obtain ⟨final, finished, ended⟩ := finish_told passive known
  refine ⟨final, ?_, ended⟩
  rw [build_planned given planned started.going]
  simp only [apart, Bool.false_eq_true, ↓reduceIte, ran, finished]

theorem build_unstaffed (schedule : Schedule)
    (started : (Run.start.tell o (opening layout words workers)).Told o words.length [])
    {fault : BuildFault} (given : workersOf draft asked = .ok workers)
    (planned : plan draft words = .ok (chunks, sections))
    (apart : (isOne workers || chunks.length ≤ 1) = false)
    (refused : checkWorkers workers = .error fault) :
    ∃ run, build draft layout words asked o schedule = ⟨run, some fault⟩ ∧
      run.Told o words.length [] := by
  refine ⟨_, ?_, started⟩
  rw [build_planned given planned started.going]
  simp only [apart, Bool.false_eq_true, ↓reduceIte, parallel, refused, finish]

end

/-- A build that is not refused makes known the results of the walk, chunk by chunk. -/
theorem build_told (passive : o.Passive) (complete : schedule.Complete)
    (positive : ∀ n, asked = some n → 1 ≤ n)
    (staffed : ¬Overstaffed (workersFor s asked) (blocks s.processing.chunkSize words).length) :
    ∃ final, build (.ofSettings s) layout words (workersValue asked) o schedule = ⟨final, none⟩ ∧
      final.Told o words.length
        (blocks s.processing.chunkSize (resultsOf s layout words asked schedule)) := by
  obtain ⟨sections, planned, handed⟩ := plan_ofSettings s words
  have given := workersOf_ofSettings s asked
  have found : chunkExtractor layout.toRecord sections = .ok (extractorOf s layout) :=
    chunkExtractor_eq s layout handed
  have cut (failureOf : Nat → Option String) := mapIdx_blocks s.processing.positive
    (fun index => (extractorOf s layout).resultOf (failureOf index)) words
  have single := alone_iff (workersFor s asked) (blocks s.processing.chunkSize words).length
  rw [resultsOf, Extractor.results, failureOf]
  by_cases alone : OneByOne (workersFor s asked) (blocks s.processing.chunkSize words).length
  · obtain ⟨final, returned, told⟩ := build_alone (extractorOf s layout) schedule passive given
      planned found (single.mpr alone)
    refine ⟨final, returned, ?_⟩
    have same : (blocks s.processing.chunkSize words).mapIdx (fun _ block =>
        block.map ((extractorOf s layout).resultOf none)) =
        (blocks s.processing.chunkSize words).map
          (List.map ((extractorOf s layout).resultOf none)) := by
      apply List.ext_getElem <;> simp
    rw [if_pos alone, ← cut fun _ => none]
    exact same ▸ told
  · have counted : checkWorkers (workersValue (workersFor s asked)) = .ok () := by
      rw [checkWorkers_workersValue (workersFor_positive positive), if_neg]
      exact fun many => staffed ⟨lt_of_not_ge fun few => alone (.inr few), many⟩
    obtain ⟨final, returned, told⟩ := build_apart layout passive complete given planned
      (Bool.eq_false_iff.mpr (mt single.mp alone)) counted
    refine ⟨final, returned, ?_⟩
    rw [if_neg alone, ← cut, ← (extractorOf s layout).results_arrived (processChunk_ok found)]
    exact told

theorem build_report (passive : o.Passive) (complete : schedule.Complete)
    (positive : ∀ n, asked = some n → 1 ≤ n)
    (staffed : ¬Overstaffed (workersFor s asked) (blocks s.processing.chunkSize words).length) :
    let results := resultsOf s layout words asked schedule
    let report := build (.ofSettings s) layout words (workersValue asked) o schedule
    report.fault = none ∧
      report.run.calls =
        (walkCalls s.processing.chunkSize words.length 0 results).filter o.hears ∧
      report.run.statistics = .ofResults results := by
  intro results report
  obtain ⟨final, ended, told⟩ : ∃ final, report = ⟨final, none⟩ ∧ final.Told o words.length
      (blocks s.processing.chunkSize results) := build_told passive complete positive staffed
  have length : results.length = words.length := (extractorOf s layout).length_results _ _ _
  have statistics := told.statistics
  have calls := told.calls
  rw [flatten_blocks s.processing.positive] at statistics
  rw [chunkCalls_blocks s.processing.positive (Nat.dvd_zero _) results (by omega)] at calls
  rw [ended]
  exact ⟨rfl, calls, statistics⟩

theorem build_refused (passive : o.Passive) (positive : ∀ n, asked = some n → 1 ≤ n)
    (many : Overstaffed (workersFor s asked) (blocks s.processing.chunkSize words).length) :
    ∃ run, build (.ofSettings s) layout words (workersValue asked) o schedule =
        ⟨run, some .tooManyWorkers⟩ ∧ run.Told o words.length [] := by
  obtain ⟨sections, planned, _⟩ := plan_ofSettings s words
  obtain ⟨parts, n, found, beyond⟩ := many
  have apart : ¬OneByOne (workersFor s asked) (blocks s.processing.chunkSize words).length := by
    rintro (one | few)
    · obtain rfl := Option.some.inj (found.symm.trans one)
      exact absurd beyond (by decide)
    · exact absurd parts (not_lt.mpr few)
  have refused : checkWorkers (workersValue (workersFor s asked)) = .error .tooManyWorkers := by
    rw [checkWorkers_workersValue (workersFor_positive positive), if_pos ⟨n, found, beyond⟩]
  exact build_unstaffed schedule (told_opening passive layout words _)
    (workersOf_ofSettings s asked) planned
    (Bool.eq_false_iff.mpr (mt (alone_iff _ _).mp apart)) refused

end Build

open Build

/-- A build is a plain walk over the words, unless it is refused for the number of its workers: no
word is lost, made twice or moved, and where no chunk fails one worker does the same. -/
theorem build_eq_walk [Text.Halves] (s : Settings) (layout : KeyLayout Coordinate)
    (words : List String) (asked : Option Nat) (o : Observer) (schedule : Schedule)
    (positive : ∀ n, asked = some n → 1 ≤ n) (passive : o.Passive) (complete : schedule.Complete) :
    let size := s.processing.chunkSize
    let chunks := (blocks size words).length
    let workers := workersFor s asked
    let results := resultsOf s layout words asked schedule
    let walk := walkCalls size words.length 0 results
    let report := build (.ofSettings s) layout words (workersValue asked) o schedule
    let alone := build (.ofSettings s) layout words (workersValue (some 1)) o schedule
    results.map WordResult.word = words ∧
      walk.filter BuildEvent.isProgress = ((List.range chunks).map fun k =>
        .progress (min ((k + 1) * size) words.length) words.length) ∧
      (¬Overstaffed workers chunks →
        report.fault = none ∧ report.run.calls = walk.filter o.hears ∧
        report.run.statistics = .ofResults results ∧
        report.run.statistics.total = words.length ∧
        ((∀ k, failureOf workers schedule chunks k = none) →
          report.run.calls = alone.run.calls ∧
          report.run.statistics = alone.run.statistics)) ∧
      (Overstaffed workers chunks →
        report.fault = some .tooManyWorkers ∧ report.run.calls = []) := by
  intro size chunks workers results walk report alone
  have length : results.length = words.length := (extractorOf s layout).length_results _ _ _
  refine ⟨(extractorOf s layout).words_results _ _ _, ?_, fun staffed => ?_, fun many => ?_⟩
  · have start : 0 = min (0 * size) words.length := by rw [Nat.zero_mul, Nat.zero_min]
    have told := progress_chunkCalls results 0 start (by omega)
    have count : (blocks size results).length = chunks :=
      (extractorOf s layout).length_blocks_results s.processing.positive _ words
    rw [chunkCalls_blocks s.processing.positive (Nat.dvd_zero size) results (by omega), count]
      at told
    simpa only [Nat.zero_add] using told
  · obtain ⟨fault, calls, statistics⟩ : report.fault = none ∧
        report.run.calls = walk.filter o.hears ∧ report.run.statistics = .ofResults results :=
      build_report passive complete positive staffed
    refine ⟨fault, calls, statistics, ?_, fun sound => ?_⟩
    · rw [statistics, Statistics.total_ofResults, length]
    · have few : ¬Overstaffed (workersFor s (some 1)) chunks := by
        rintro ⟨_, n, one, beyond⟩
        obtain rfl := Option.some.inj one
        exact absurd beyond (by decide)
      obtain ⟨_, callsAlone, statisticsAlone⟩ : alone.fault = none ∧
          alone.run.calls = (walkCalls size words.length 0
            (resultsOf s layout words (some 1) schedule)).filter o.hears ∧
          alone.run.statistics = .ofResults (resultsOf s layout words (some 1) schedule) :=
        build_report passive complete (fun _ one => Option.some.inj one ▸ le_rfl) few
      rw [calls, statistics, callsAlone, statisticsAlone, ← resultsOf_alone sound]
      exact ⟨rfl, rfl⟩
  · obtain ⟨run, refused, started⟩ : ∃ run, report = ⟨run, some .tooManyWorkers⟩ ∧
        run.Told o words.length [] := build_refused passive positive many
    rw [refused]
    exact ⟨rfl, started.calls⟩

/-- Two workers, of whose chunks the second arrives first and the first fails. -/
theorem build_eq_walk_two_workers :
    let s : Settings :=
      ⟨.default, .default, ⟨some ⟨2, by decide⟩, 1, by decide⟩, .default, by decide⟩
    let layout := (KeyLayout.ofRows [⟨["a", "b", "c"], 0⟩] 10 10).map Coordinate.whole
    let words := ["ab", "!"]
    let schedule : Schedule := fun count => (List.range count).reverse.map fun index =>
      ⟨index, if index = 0 then some "lost" else none⟩
    let report := @build .absent (.ofSettings s) layout words (workersValue none) {} schedule
    (∀ n, (none : Option Nat) = some n → 1 ≤ n) ∧ ({} : Observer).Passive ∧ schedule.Complete ∧
      report.fault = none ∧ report.run.statistics.total = 2 ∧
      report.run.calls = [.skip "ab" "lost", .progress 1 2,
        .skip "!" "no letters after normalization", .progress 2 2] := by
  intro s layout words schedule report
  have positive : ∀ n, (none : Option Nat) = some n → 1 ≤ n := fun _ absent => nomatch absent
  have passive : ({} : Observer).Passive := fun _ _ => rfl
  have complete : schedule.Complete := by
    intro count
    have indices : (schedule count).map Arrival.index = (List.range count).reverse := by
      simp [schedule, Function.comp_def]
    exact indices ▸ List.reverse_perm _
  have chunks : (blocks 1 words).length = 2 := by
    simp [words, blocks]
  have staffed : ¬Overstaffed (workersFor s none) (blocks 1 words).length := by
    rintro ⟨_, n, two, beyond⟩
    obtain rfl := Option.some.inj two
    exact absurd beyond (by decide)
  obtain ⟨fault, calls, statistics, total, _⟩ :=
    (@build_eq_walk .absent s layout words none {} schedule positive passive complete).2.2.1 staffed
  have outcome : (extractorOf s layout).outcome "!" =
      .skipped "no letters after normalization" := rfl
  have results : resultsOf s layout words none schedule =
      [⟨"ab", .failed "lost"⟩, ⟨"!", .skipped "no letters after normalization"⟩] := by
    have failures : failureOf (workersFor s none) schedule (blocks 1 words).length =
        Arrival.failureOf (schedule 2) := by
      rw [chunks]
      rfl
    rw [resultsOf]
    change (extractorOf s layout).results 1
      (failureOf (workersFor s none) schedule (blocks 1 words).length) words = _
    rw [failures]
    simp [Extractor.results, Extractor.resultOf, Arrival.failureOf, schedule, words, outcome,
      List.range_succ]
  refine ⟨positive, passive, complete, fault, total, calls.trans ?_⟩
  rw [results]
  simp [walkCalls, WordResult.call, Observer.hears, s, words]

/-- One worker more than can be counted, for two words in two chunks. -/
theorem build_ne_walk_too_many_workers :
    let s : Settings :=
      ⟨.default, .default, ⟨some ⟨1, by decide⟩, 1, by decide⟩, .default, by decide⟩
    let layout := (KeyLayout.ofRows [⟨["a", "b", "c"], 0⟩] 10 10).map Coordinate.whole
    let words := ["ab", "ba"]
    let asked : Option Nat := some 2147483647
    let report := @build .absent (.ofSettings s) layout words (workersValue asked) {} .inOrder
    (∀ n, asked = some n → 1 ≤ n) ∧ ({} : Observer).Passive ∧ Schedule.inOrder.Complete ∧
      report.run.calls ≠
        (walkCalls 1 2 0 (resultsOf s layout words asked .inOrder)).filter ({} : Observer).hears := by
  intro s layout words asked report
  have positive : ∀ n, asked = some n → 1 ≤ n := by
    intro n given
    obtain rfl := Option.some.inj given
    decide
  have passive : ({} : Observer).Passive := fun _ _ => rfl
  have complete : Schedule.inOrder.Complete := by
    intro count
    have indices : (Schedule.inOrder count).map Arrival.index = List.range count := by
      simp [Schedule.inOrder, Function.comp_def]
    exact indices ▸ List.Perm.rfl
  have chunks : (blocks 1 words).length = 2 := by
    simp [words, blocks]
  have many : Overstaffed (workersFor s asked) (blocks 1 words).length :=
    ⟨chunks ▸ Nat.one_lt_two, 2147483647, rfl, by decide⟩
  let _ : Text.Halves := .absent
  obtain ⟨run, refused, started⟩ : ∃ run, report = ⟨run, some .tooManyWorkers⟩ ∧
      run.Told {} words.length [] := build_refused passive positive many
  have empty : report.run.calls = [] := by
    rw [refused]
    exact started.calls
  have length : (resultsOf s layout words asked .inOrder).length = 2 :=
    (extractorOf s layout).length_results _ _ words
  refine ⟨positive, passive, complete, ?_⟩
  rw [empty]
  cases shape : resultsOf s layout words asked .inOrder with
  | nil => simp [shape] at length
  | cons result rest =>
    have heard : ({} : Observer).hears result.call = true := by
      obtain ⟨word, vector | reason | message⟩ := result <;> rfl
    rw [walkCalls, List.filter_cons_of_pos heard]
    exact (List.cons_ne_nil _ _).symm

end GestureLexicon
