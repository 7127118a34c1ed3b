import GestureLexicon.Command
import GestureLexicon.Proofs.BuildOrder

/-!
What a build has written. Its rows are those of the results that it has made known, the writer's
count is theirs however the build ends, its text is their lines one after another, and together with
the words left out and the words that failed they account for every word of these results.
-/

namespace GestureLexicon

namespace BuildEvent

def row? : BuildEvent → Option (String × FeatureVector Float)
  | row word vector => some (word, vector)
  | _ => none

end BuildEvent

namespace WordResult

def row? : WordResult → Option (String × FeatureVector Float)
  | ⟨word, .row vector⟩ => some (word, vector)
  | _ => none

/-- Every result is a row, a word left out or a word that failed. -/
theorem perm_words (results : List WordResult) :
    ((results.filterMap row?).map Prod.fst ++ (results.filterMap skipped?).map Prod.fst ++
      (results.filterMap failed?).map Prod.fst).Perm (results.map word) := by
  induction results with
  | nil => exact .rfl
  | cons result results ih =>
    obtain ⟨word, vector | reason | message⟩ := result
    · exact ih.cons word
    · refine List.Perm.trans ?_ (ih.cons word)
      simp only [List.append_assoc]
      exact List.perm_middle
    · exact List.perm_middle.trans (ih.cons word)

theorem row?_call (result : WordResult) : result.call.row? = result.row? := by
  obtain ⟨word, vector | reason | message⟩ := result <;> rfl

end WordResult

theorem rows_chunkCalls (total done : Nat) (chunks : List (List WordResult)) :
    (chunkCalls total done chunks).filterMap BuildEvent.row? =
      chunks.flatten.filterMap WordResult.row? := by
  induction chunks generalizing done with
  | nil => rfl
  | cons chunk chunks ih =>
    have first : (chunk.map WordResult.call).filterMap BuildEvent.row? =
        chunk.filterMap WordResult.row? := by
      rw [List.filterMap_map]
      exact List.filterMap_congr fun result _ => result.row?_call
    rw [chunkCalls, List.filterMap_append, List.filterMap_cons_none rfl, ih, first,
      List.flatten_cons, List.filterMap_append]

namespace Run

def rows (r : Run) : List (String × FeatureVector Float) :=
  r.trace.toList.filterMap BuildEvent.row?

/-- The writer has counted every row, and nothing else. -/
def Tallied (r : Run) : Prop := r.written = r.rows.length

section
variable {r : Run}

theorem Tallied.extend (tallied : r.Tallied) (events : List BuildEvent) :
    (r.extend events).Tallied := by
  have counted : events.countP BuildEvent.isRow =
      (events.filterMap BuildEvent.row?).length := by
    rw [List.length_filterMap_eq_countP]
    exact List.countP_congr fun e _ => by cases e <;> simp [BuildEvent.isRow, BuildEvent.row?]
  have grown : (r.extend events).rows = r.rows ++ events.filterMap BuildEvent.row? := by
    simp [Run.rows, Run.extend]
  rw [Tallied, grown, List.length_append, ← counted, ← (tallied : r.written = _)]
  rfl

theorem Tallied.tell (tallied : r.Tallied) (o : Observer) (e : BuildEvent) :
    (r.tell o e).Tallied := by
  have taken : (r.take e).Tallied := by
    rw [take_eq]
    exact tallied.extend [e]
  rw [Run.tell]
  split
  · exact tallied
  · split
    · exact taken
    · exact tallied
    · exact taken

theorem Tallied.tellAll (tallied : r.Tallied) (o : Observer) (events : List BuildEvent) :
    (r.tellAll o events).Tallied := by
  induction events generalizing r with
  | nil => exact tallied
  | cons e events ih => exact ih (tallied.tell o e)

theorem Tallied.overhear (tallied : r.Tallied) (log : List LogEvent) :
    (r.overhear log).Tallied := by
  rw [overhear_eq]
  exact tallied.extend _

theorem Tallied.emit (tallied : r.Tallied) (o : Observer) (total : Nat)
    (results : List WordResult) : (r.emit o total results).Tallied := by
  let told := r.tellAll o (results.flatMap WordResult.events)
  let moved : Run := { told with done := r.done + results.length }
  have counted : moved.Tallied := tallied.tellAll o (results.flatMap WordResult.events)
  exact counted.tell o (.progress (r.done + results.length) total)

end

theorem Told.rows {r : Run} {o : Observer} {total : Nat} {chunks : List (List WordResult)}
    (told : r.Told o total chunks) : r.rows = chunks.flatten.filterMap WordResult.row? := by
  have called : r.rows = r.calls.filterMap BuildEvent.row? := by
    rw [Run.rows, Run.calls, List.filterMap_filter]
    refine List.filterMap_congr fun e _ => ?_
    cases e <;> rfl
  rw [called, told.calls, o.filterMap_heard (fun _ _ => rfl) fun _ _ => rfl, rows_chunkCalls]

/-- Every result that a build makes known is counted once, and its word is that of a row, a word
left out or a word that failed. -/
theorem Told.accounted {r : Run} {o : Observer} {total : Nat} {chunks : List (List WordResult)}
    (told : r.Told o total chunks) :
    r.statistics.total = chunks.flatten.length ∧
      (r.rows.map Prod.fst ++ r.statistics.skippedWords.map Prod.fst ++
        r.statistics.failedWords.map Prod.fst).Perm (chunks.flatten.map WordResult.word) := by
  rw [told.rows, told.statistics]
  exact ⟨Statistics.total_ofResults _, WordResult.perm_words _⟩

end Run

namespace Command

theorem outputOf_eq (trace : List BuildEvent) :
    outputOf trace =
      .join ((trace.filterMap BuildEvent.row?).map fun row => Dictionary.line row.1 row.2) := by
  induction trace with
  | nil => rfl
  | cons e trace ih =>
    rw [outputOf] at ih ⊢
    rw [List.map_cons, String.join_cons, ih]
    cases e with
    | row word vector => exact String.join_cons.symm
    | _ => exact String.empty_append

end Command

namespace Sequencer
variable {run : Run} {s : Sequencer} {total : Nat}

theorem tallied_release (tallied : run.Tallied) (o : Observer) (total next : Nat)
    (queue : List (Nat × List WordResult)) : (release o total run next queue).1.Tallied := by
  induction queue generalizing run next with
  | nil => exact tallied
  | cons entry rest ih =>
    rw [release]
    split
    · exact tallied
    · exact ih (tallied.emit o total entry.2) _

theorem tallied_receive (tallied : s.run.Tallied) (o : Observer) (total : Nat)
    (process : List String → Except ChunkFault ChunkReport) (chunks : Array (List String))
    (a : Arrival) : (s.receive o total process chunks a).run.Tallied := by
  rw [receive]
  split
  · exact tallied
  · exact tallied_release (tallied.overhear _) o total _ _

theorem tallied_process (tallied : run.Tallied) (o : Observer) (total : Nat)
    (process : List String → Except ChunkFault ChunkReport) (chunks : List (List String))
    (arrivals : List Arrival) :
    (Sequencer.process o total process chunks arrivals run).Tallied := by
  have received (s : Sequencer) (tallied : s.run.Tallied) :
      (arrivals.foldl (receive o total process chunks.toArray) s).run.Tallied := by
    induction arrivals generalizing s with
    | nil => exact tallied
    | cons a arrivals ih => exact ih _ (tallied_receive tallied o total process _ a)
  have all := received ⟨run, 0, [], List.range chunks.length⟩ tallied
  rw [Sequencer.process]
  generalize arrivals.foldl _ _ = s at *
  split
  · have going : ({ s.run with interrupted := false } : Run).Tallied := all
    exact going.tell o (.logged .cancellation)
  · exact all

end Sequencer

namespace Build
variable {run : Run} {report : BuildReport}

theorem tallied_inline (tallied : run.Tallied) (o : Observer) (total : Nat)
    (process : List String → Except ChunkFault ChunkReport) (chunks : List (List String)) :
    (inline o total process chunks run).run.Tallied := by
  induction chunks generalizing run with
  | nil => exact tallied
  | cons chunk chunks ih =>
    rw [inline]
    cases process chunk with
    | error fault => exact tallied
    | ok report =>
      have emitted := (tallied.tellAll o (report.log.map .logged)).emit o total report.results
      dsimp only
      split
      · exact emitted
      · exact ih emitted

theorem tallied_parallel (tallied : run.Tallied) (o : Observer) (total : Nat)
    (process : List String → Except ChunkFault ChunkReport) (workers : Value) (schedule : Schedule)
    (chunks : List (List String)) :
    (parallel o total process workers schedule chunks run).run.Tallied := by
  rw [parallel]
  cases checkWorkers workers with
  | error fault => exact tallied
  | ok _ => exact Sequencer.tallied_process tallied o total process chunks _

theorem tallied_finish (tallied : report.run.Tallied) (o : Observer) :
    (finish o report).run.Tallied := by
  rw [finish]
  cases report.fault with
  | some fault => exact tallied
  | none => exact tallied.tell o _

/-- However a build ends, its writer has counted the rows. -/
theorem written_eq [Text.Halves] (draft : Draft) (layout : KeyLayout Coordinate)
    (words : List String) (asked : Value) (o : Observer) (schedule : Schedule) :
    let run := (build draft layout words asked o schedule).run
    run.written = run.rows.length := by
  change Run.Tallied _
  have fresh : Run.start.Tallied := rfl
  rw [build]
  cases workersOf draft asked with
  | error fault => exact fresh
  | ok workers =>
    have started := fresh.tell o (.logged (.started words.length layout.size workers))
    dsimp only
    split
    · exact started
    · cases plan draft words with
      | error fault => exact started
      | ok pair =>
        refine tallied_finish ?_ o
        split
        · exact tallied_inline started o _ _ _
        · exact tallied_parallel started o _ _ _ _ _

end Build

namespace Build
variable {o : Observer} {schedule : Schedule} {words : List String} {asked : Value}
variable {layout : KeyLayout Coordinate} {draft : Draft} {chunks : List (List String)}
variable {sections : List (String × Value)} {workers : Value} (e : Extractor Coordinate)

theorem words_mapIdx (failureOf : Nat → Option String) (chunks : List (List String)) :
    (chunks.mapIdx fun index chunk => chunk.map (e.resultOf (failureOf index))).flatten.map
      WordResult.word = chunks.flatten := by
  rw [List.map_flatten, e.words_chunks]

variable [Text.Halves]

/-- A build with a plan and an extractor makes known a result for each word of its chunks, in order,
and each is the word's own outcome or a failure; or it is refused and makes nothing known. -/
theorem build_course (passive : o.Passive) (complete : schedule.Complete)
    (given : workersOf draft asked = .ok workers)
    (planned : plan draft words = .ok (chunks, sections))
    (found : chunkExtractor layout.toRecord sections = .ok e) :
    ∃ final fault results, build draft layout words asked o schedule = ⟨final, fault⟩ ∧
      final.Told o words.length results ∧
      (∀ result ∈ results.flatten, ∃ failure, result = e.resultOf failure result.word) ∧
      (results.flatten.map WordResult.word).Sublist chunks.flatten ∧
      (fault = none → results.flatten.map WordResult.word = chunks.flatten) := by
  have own (failureOf : Nat → Option String) : ∀ result ∈ (chunks.mapIdx fun index chunk =>
      chunk.map (e.resultOf (failureOf index))).flatten,
      ∃ failure, result = e.resultOf failure result.word := by
    intro result member
    obtain ⟨mapped, listed, among⟩ := List.mem_flatten.mp member
    obtain ⟨index, _, rfl⟩ := List.mem_mapIdx.mp listed
    obtain ⟨word, _, rfl⟩ := List.mem_map.mp among
    exact ⟨failureOf index, rfl⟩
  cases alone : isOne workers || decide (chunks.length ≤ 1) with
  | true =>
    obtain ⟨final, returned, told⟩ := build_alone e schedule passive given planned found alone
    have same : chunks.map (List.map (e.resultOf none)) =
        chunks.mapIdx fun _ chunk => chunk.map (e.resultOf none) := by
      apply List.ext_getElem <;> simp
    rw [same] at told
    have all := words_mapIdx e (fun _ => none) chunks
    exact ⟨final, none, _, returned, told, own _, all ▸ .refl _, fun _ => all⟩
  | false =>
    cases staffed : checkWorkers workers with
    | error fault =>
      obtain ⟨run, refused, told⟩ := build_unstaffed schedule
        (told_opening passive layout words workers) given planned alone staffed
      exact ⟨run, some fault, [], refused, told, List.forall_mem_nil _, List.nil_sublist _,
        fun returned => nomatch returned⟩
    | ok _ =>
      obtain ⟨final, returned, told⟩ := build_apart layout passive complete given planned alone
        staffed
      rw [e.results_arrived (processChunk_ok found)] at told
      have all := words_mapIdx e (Arrival.failureOf (schedule chunks.length)) chunks
      exact ⟨final, none, _, returned, told, own _, all ▸ .refl _, fun _ => all⟩

theorem accounted (passive : o.Passive) (complete : schedule.Complete)
    (given : workersOf draft asked = .ok workers)
    (planned : plan draft words = .ok (chunks, sections))
    (found : chunkExtractor layout.toRecord sections = .ok e) :
    let report := build draft layout words asked o schedule
    let counts := report.run.statistics
    report.fault = none → counts.total = chunks.flatten.length ∧
      (report.run.rows.map Prod.fst ++ counts.skippedWords.map Prod.fst ++
        counts.failedWords.map Prod.fst).Perm chunks.flatten := by
  intro report counts returned
  obtain ⟨final, fault, results, course, told, _, _, whole⟩ :=
    build_course e passive complete given planned found
  have words := whole ((congrArg BuildReport.fault course).symm.trans returned)
  have run : report.run = final := congrArg BuildReport.run course
  simp only [counts, run]
  rw [← words, List.length_map]
  exact told.accounted

end Build

end GestureLexicon
