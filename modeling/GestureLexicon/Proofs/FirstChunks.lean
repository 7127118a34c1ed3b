import GestureLexicon.Proofs.Cancellation

/-!
Calls of a build that is interrupted with its `k`-th report on progress. One worker comes to an end
there; of chunks processed side by side those that wait are never released. Either way the calls are
those for the first `k` chunks of the build that nobody interrupts, and a build for which no workers
can be had makes none. Main statement: `interrupted_calls_eq_first_chunks`.
-/

namespace GestureLexicon

namespace Build
variable {o : Observer} {k total : Nat} {run : Run} {before : List (List WordResult)}

section
variable (e : Extractor Coordinate) {process : List String → Except ChunkFault ChunkReport}

/-- Chunks processed one by one end the build with the `k`-th of them. -/
theorem inline_ends (ends : o.EndsAt k) (sound : ∀ chunk, process chunk = .ok (e.report chunk))
    (chunks : List (List String)) (told : run.Told o total before) (early : before.length < k)
    (reached : k ≤ before.length + chunks.length) :
    ∃ final : Run, inline o total process chunks run = ⟨final.ended, some .interrupted⟩ ∧
      final.Told o total ((before ++ chunks.map (List.map (e.resultOf none))).take k) := by
  induction chunks generalizing run before with
  | nil =>
    rw [List.length_nil] at reached
    omega
  | cons chunk chunks ih =>
    let logged := run.tellAll o ((e.report chunk).log.map .logged)
    let results := chunk.map (e.resultOf none)
    have quiet : ((e.report chunk).log.map BuildEvent.logged).countP BuildEvent.isProgress = 0 := by
      apply List.countP_eq_zero.mpr
      intro event member
      obtain ⟨entry, _, rfl⟩ := List.mem_map.mp member
      exact Bool.false_ne_true
    have heard : logged.Told o total before := by
      simp only [logged, Run.tellAll_calm ends run quiet]
      exact (told.calm.tellAll o.calm_passive (e.silent_report chunk)).of_calm
    have emitted : (logged.emit o.calm total results).Told o total (before ++ [results]) :=
      (heard.calm.emit o.calm_passive results).of_calm
    have course := heard.emit_calm ends results
    have split : before ++ (chunk :: chunks).map (List.map (e.resultOf none)) =
        (before ++ [results]) ++ chunks.map (List.map (e.resultOf none)) := by
      simp [results]
    have size : (before ++ [results]).length = before.length + 1 := by simp
    have step : inline o total process (chunk :: chunks) run =
        if (logged.emit o total results).interrupted then
          ⟨logged.emit o total results, some .interrupted⟩
        else inline o total process chunks (logged.emit o total results) := by
      rw [inline, sound]
      rfl
    rw [step, split]
    by_cases last : before.length + 1 = k
    · rw [if_pos last] at course
      refine ⟨logged.emit o.calm total results, ?_, ?_⟩
      · rw [course]
        rfl
      · rw [List.take_left' (size.trans last)]
        exact emitted
    · rw [if_neg last] at course
      rw [course, emitted.going, if_neg Bool.false_ne_true]
      apply ih emitted
      · omega
      · rw [List.length_cons] at reached
        omega

end

/-- Chunks are processed one by one, or there are workers who process them side by side: their
number is left open or can be counted. -/
def Staffed (workers : Value) (chunks : Nat) : Prop :=
  isOne workers = true ∨ chunks ≤ 1 ∨ workers = .null ∨
    ∃ n : Int, workers = .whole n ∧ 1 ≤ n ∧ n ≤ mostWorkers

theorem checkWorkers_eq_ok {workers : Value} (several : isOne workers = false) :
    checkWorkers workers = .ok () ↔
      workers = .null ∨ ∃ n : Int, workers = .whole n ∧ 1 ≤ n ∧ n ≤ mostWorkers := by
  unfold checkWorkers
  match workers with
  | .null => simp
  | .boolean true => exact nomatch several
  | .boolean false => simp [Value.whole]
  | .number (.whole n) =>
    by_cases few : n < 1
    · simp [few, Value.whole]
    · by_cases many : (mostWorkers : Int) < n
      · simp [few, many, Value.whole]
      · simp [few, many, Value.whole]
        omega
  | .number (.real _) => simp [Value.whole]
  | .text _ => simp [Value.whole]
  | .list _ => simp [Value.whole]
  | .record _ => simp [Value.whole]

variable [Text.Halves] {draft : Draft} {layout : KeyLayout Coordinate} {words : List String}
variable {asked workers : Value} {schedule : Schedule} {chunks : List (List String)}
variable {sections : List (String × Value)} {e : Extractor Coordinate}

/-- The results of chunks, as a build that nobody interrupts makes them known and as one that is
interrupted with the `k`-th progress does. -/
def EndsAfter (k : Nat) (draft : Draft) (layout : KeyLayout Coordinate) (words : List String)
    (asked : Value) (o : Observer) (schedule : Schedule)
    (results : List (List WordResult)) : Prop :=
  let calls (shown : List (List WordResult)) := (chunkCalls words.length 0 shown).filter o.hears
  let whole := build draft layout words asked o.calm schedule
  let report := build draft layout words asked o schedule
  whole.fault = none ∧ whole.run.calls = calls results ∧
    report.fault = some .interrupted ∧ report.run.calls = calls (results.take k)

theorem build_alone_ends (ends : o.EndsAt k) (positive : 1 ≤ k) (reached : k ≤ chunks.length)
    (given : workersOf draft asked = .ok workers)
    (planned : plan draft words = .ok (chunks, sections))
    (found : chunkExtractor layout.toRecord sections = .ok e)
    (alone : (isOne workers || chunks.length ≤ 1) = true) :
    EndsAfter k draft layout words asked o schedule (chunks.map (List.map (e.resultOf none))) := by
  obtain ⟨whole, returned, known⟩ :=
    build_alone e schedule o.calm_passive given planned found alone
  have started := told_opening_ends ends layout words workers
  obtain ⟨final, ran, told⟩ := inline_ends e ends (processChunk_ok found) chunks started
    positive (by rw [List.length_nil]; omega)
  have ended : build draft layout words asked o schedule = ⟨final.ended, some .interrupted⟩ := by
    rw [build_planned given planned started.going]
    simp only [alone, ↓reduceIte, ran, finish]
  unfold EndsAfter
  rw [returned, ended]
  exact ⟨rfl, known.of_calm.calls, rfl, told.calls⟩

theorem build_apart_ends_first (ends : o.EndsAt k) (positive : 1 ≤ k) (reached : k ≤ chunks.length)
    (complete : schedule.Complete) (given : workersOf draft asked = .ok workers)
    (planned : plan draft words = .ok (chunks, sections))
    (apart : (isOne workers || chunks.length ≤ 1) = false)
    (staffed : checkWorkers workers = .ok ()) :
    EndsAfter k draft layout words asked o schedule
      (arrivedResults (fun chunk => processChunk chunk layout.toRecord sections)
        (schedule chunks.length) chunks) := by
  obtain ⟨whole, returned, known⟩ :=
    build_apart layout o.calm_passive complete given planned apart staffed
  obtain ⟨_, _, s, _, halted, ended⟩ :=
    build_apart_ends layout ends positive reached complete given planned apart staffed
  obtain ⟨run, told, cancelled⟩ := halted.cancel_eq ends chunks.toArray
  unfold EndsAfter
  rw [returned, ended, cancelled]
  refine ⟨rfl, known.of_calm.calls, rfl, told.calls.trans ?_⟩
  unfold arrivedResults
  rw [← List.map_take, List.take_range, min_eq_left reached]

/-- A build that can have workers, if it needs them, ends with the `k`-th of its chunks. -/
theorem build_ends_after {s : Settings} (layout : KeyLayout Coordinate) (ends : o.EndsAt k)
    (positive : 1 ≤ k)
    (reached : k ≤ (blocks s.processing.chunkSize words).length) (complete : schedule.Complete)
    (given : workersOf (.ofSettings s) asked = .ok workers)
    (staffed : Staffed workers (blocks s.processing.chunkSize words).length) :
    ∃ results : List (List WordResult),
      results.map (List.map WordResult.word) = blocks s.processing.chunkSize words ∧
      EndsAfter k (.ofSettings s) layout words asked o schedule results := by
  let chunks := blocks s.processing.chunkSize words
  obtain ⟨sections, planned, handed⟩ := plan_ofSettings s words
  have found : chunkExtractor layout.toRecord sections = .ok (extractorOf s layout) :=
    chunkExtractor_eq s layout handed
  cases alone : isOne workers || decide (chunks.length ≤ 1) with
  | true =>
    refine ⟨chunks.map (List.map ((extractorOf s layout).resultOf none)), ?_,
      build_alone_ends ends positive reached given planned found alone⟩
    have same : chunks.map (List.map ((extractorOf s layout).resultOf none)) =
        chunks.mapIdx fun _ chunk => chunk.map ((extractorOf s layout).resultOf none) := by
      apply List.ext_getElem <;> simp
    rw [same]
    exact (extractorOf s layout).words_chunks (fun _ => none) chunks
  | false =>
    obtain ⟨several, many⟩ := Bool.or_eq_false_iff.mp alone
    have counted : checkWorkers workers = .ok () := by
      apply (checkWorkers_eq_ok several).mpr
      rcases staffed with one | few | known
      · rw [several] at one
        exact nomatch one
      · exact absurd few (of_decide_eq_false many)
      · exact known
    refine ⟨arrivedResults (fun chunk => processChunk chunk layout.toRecord sections)
      (schedule chunks.length) chunks, ?_,
      build_apart_ends_first ends positive reached complete given planned alone counted⟩
    rw [(extractorOf s layout).results_arrived (processChunk_ok found)]
    exact (extractorOf s layout).words_chunks _ chunks

theorem build_stops_unstaffed {s : Settings} (layout : KeyLayout Coordinate) (ends : o.EndsAt k)
    (schedule : Schedule) (given : workersOf (.ofSettings s) asked = .ok workers)
    (unstaffed : ¬Staffed workers (blocks s.processing.chunkSize words).length) :
    ∃ fault, checkWorkers workers = .error fault ∧
      (build (.ofSettings s) layout words asked o.calm schedule).fault = some fault ∧
      (build (.ofSettings s) layout words asked o schedule).fault = some fault ∧
      (build (.ofSettings s) layout words asked o schedule).run.calls = [] := by
  obtain ⟨sections, planned, _⟩ := plan_ofSettings s words
  simp only [Staffed, not_or] at unstaffed
  obtain ⟨several, many, uncounted⟩ := unstaffed
  have apart : (isOne workers || decide ((blocks s.processing.chunkSize words).length ≤ 1)) =
      false := by
    simp [several, many]
  cases refused : checkWorkers workers with
  | ok _ =>
    have known := (checkWorkers_eq_ok (Bool.eq_false_iff.mpr several)).mp refused
    exact absurd known (not_or.mpr uncounted)
  | error fault =>
    obtain ⟨_, stopped, _⟩ := build_unstaffed schedule
      (told_opening o.calm_passive layout words workers) given planned apart refused
    obtain ⟨_, failed, told⟩ := build_unstaffed schedule
      (told_opening_ends ends layout words workers) given planned apart refused
    refine ⟨fault, rfl, congrArg BuildReport.fault stopped, congrArg BuildReport.fault failed, ?_⟩
    rw [failed]
    exact told.calls

end Build

open Build

/-- A build that is interrupted with the `k`-th progress has made the calls for its first `k` chunks
and no others, however its chunks are processed and in whatever order they arrive. Only a build that
can have no workers ends otherwise, and as it would without the interruption. -/
theorem interrupted_calls_eq_first_chunks [Text.Halves] (s : Settings)
    (layout : KeyLayout Coordinate) (words : List String) (asked : Value) (o : Observer)
    (schedule : Schedule) (k : Nat) (ends : o.EndsAt k) (positive : 1 ≤ k)
    (reached : k ≤ (blocks s.processing.chunkSize words).length) (complete : schedule.Complete) :
    let chunks := blocks s.processing.chunkSize words
    let calls (shown : List (List WordResult)) := (chunkCalls words.length 0 shown).filter o.hears
    let whole := build (.ofSettings s) layout words asked o.calm schedule
    let report := build (.ofSettings s) layout words asked o schedule
    ∃ workers, workersOf (.ofSettings s) asked = .ok workers ∧
      (Staffed workers chunks.length →
        whole.fault = none ∧ report.fault = some .interrupted ∧
        report.run.calls <+: whole.run.calls ∧
        ∃ results : List (List WordResult), results.map (List.map WordResult.word) = chunks ∧
          whole.run.calls = calls results ∧ report.run.calls = calls (results.take k)) ∧
      (¬Staffed workers chunks.length →
        ∃ fault, checkWorkers workers = .error fault ∧ whole.fault = some fault ∧
          report.fault = some fault ∧ report.run.calls = []) := by
  intro chunks calls whole report
  obtain ⟨workers, given⟩ := workersOf_any s asked
  refine ⟨workers, given, fun staffed => ?_, fun unstaffed => ?_⟩
  · obtain ⟨results, named, returned, shown, interrupted, first⟩ :=
      build_ends_after layout ends positive reached complete given staffed
    refine ⟨returned, interrupted, ?_, results, named, shown, first⟩
    have split : chunkCalls words.length 0 results = chunkCalls words.length 0 (results.take k) ++
        chunkCalls words.length (0 + (results.take k).flatten.length) (results.drop k) := by
      rw [← chunkCalls_append, List.take_append_drop]
    change report.run.calls = calls (results.take k) at first
    change whole.run.calls = calls results at shown
    rw [first, shown]
    simp only [calls]
    rw [split, List.filter_append]
    exact List.prefix_append _ _
  · exact build_stops_unstaffed layout ends schedule given unstaffed

/-- Three chunks arrive in the opposite order, and the build is interrupted with the second: of the
third, which arrived first, nothing is made known. -/
theorem interrupted_calls_eq_first_chunks_backwards :
    let s : Settings :=
      ⟨.default, .default, ⟨some ⟨2, by decide⟩, 1, by decide⟩, .default, by decide⟩
    let layout := (KeyLayout.ofRows [⟨["a", "b", "c"], 0⟩] 10 10).map Coordinate.whole
    let words := ["ab", "!", "ca"]
    let o := Observer.endingAt 2
    let report := @build .absent (.ofSettings s) layout words .null o .backwards
    o.EndsAt 2 ∧ 2 ≤ (blocks 1 words).length ∧ Schedule.backwards.Complete ∧
      report.fault = some .interrupted ∧
      ∃ first second : WordResult, first.word = "ab" ∧ second.word = "!" ∧
        report.run.calls = [first.call, .progress 1 3, second.call, .progress 2 3] := by
  intro s layout words o report
  let _ : Text.Halves := .absent
  have ends : o.EndsAt 2 := Observer.endsAt_endingAt 2
  have cut : blocks 1 words = [["ab"], ["!"], ["ca"]] := by simp [words, blocks]
  have reached : 2 ≤ (blocks 1 words).length := by rw [cut]; decide
  have complete := Schedule.complete_backwards
  obtain ⟨workers, given, ended, _⟩ := interrupted_calls_eq_first_chunks s layout words .null o
    .backwards 2 ends (by decide) reached complete
  obtain rfl : Value.whole 2 = workers := Except.ok.inj given
  obtain ⟨_, interrupted, _, results, named, _, calls⟩ :=
    ended (.inr (.inr (.inr ⟨2, rfl, by decide, by decide⟩)))
  change results.map (List.map WordResult.word) = blocks 1 words at named
  rw [cut] at named
  simp only [List.map_eq_cons_iff, List.map_eq_nil_iff] at named
  obtain ⟨_, _, rfl, ⟨first, _, rfl, one, rfl⟩, _, _, rfl, ⟨second, _, rfl, two, rfl⟩, _⟩ := named
  refine ⟨ends, reached, complete, interrupted, first, second, one, two, ?_⟩
  refine calls.trans (List.filter_eq_self.mpr fun e _ => ?_)
  cases e <;> rfl

/-- One worker more than can be counted: two chunks end in no interruption and no call. -/
theorem not_interrupted_too_many_workers :
    let s : Settings :=
      ⟨.default, .default, ⟨some ⟨2147483647, by decide⟩, 1, by decide⟩, .default, by decide⟩
    let layout := (KeyLayout.ofRows [⟨["a", "b", "c"], 0⟩] 10 10).map Coordinate.whole
    let words := ["ab", "ba"]
    let o := Observer.endingAt 1
    let report := @build .absent (.ofSettings s) layout words .null o .backwards
    o.EndsAt 1 ∧ 1 ≤ (blocks 1 words).length ∧ Schedule.backwards.Complete ∧
      report.fault = some .tooManyWorkers ∧ report.run.calls = [] := by
  intro s layout words o report
  let _ : Text.Halves := .absent
  have ends : o.EndsAt 1 := Observer.endsAt_endingAt 1
  have cut : blocks 1 words = [["ab"], ["ba"]] := by simp [words, blocks]
  have unstaffed : ¬Staffed (.whole 2147483647) (blocks 1 words).length := by
    rw [cut]
    rintro (one | few | left | ⟨n, same, _, counted⟩)
    · cases one
    · exact absurd few (by decide)
    · cases left
    · cases same
      exact absurd counted (by decide)
  obtain ⟨fault, refused, _, failed, silent⟩ := build_stops_unstaffed layout ends .backwards
    (workersOf_ofSettings s none) unstaffed
  obtain rfl : BuildFault.tooManyWorkers = fault := Except.error.inj refused
  exact ⟨ends, by rw [cut]; decide, Schedule.complete_backwards, failed, silent⟩

end GestureLexicon
