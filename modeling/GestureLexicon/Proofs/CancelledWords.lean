import GestureLexicon.Proofs.DictionaryText
import GestureLexicon.Proofs.Endings

/-!
The words that an interrupted command calls cancelled. Whatever ends a build, the words that have a
row by then or were reported as skipped or failed are among its words, once each, and all others
were never processed. The command calls all words without a row cancelled, the reported ones too.
Main statement: `cancelled_words_iff`.
-/

namespace GestureLexicon

namespace BuildEvent

theorem settled_perm (events : List BuildEvent) :
    let log := events.filterMap logEvent?
    (events.filterMap settled?).Perm ((events.filterMap row?).map Prod.fst ++
      (log.filterMap LogEvent.skippedWord?).map Prod.fst ++
      (log.filterMap LogEvent.failedWord?).map Prod.fst) := by
  induction events with
  | nil => exact .rfl
  | cons e events ih =>
    cases e with
    | row word vector => exact ih.cons word
    | skip word reason => exact ih
    | progress done total => exact ih
    | loggedAside e => exact ih
    | logged e =>
      cases e with
      | skipped word reason =>
        refine (ih.cons word).trans ?_
        simp only [List.append_assoc]
        exact List.perm_middle.symm
      | failed word message => exact (ih.cons word).trans List.perm_middle.symm
      | _ => exact ih

theorem Silent.eq_none {e : BuildEvent} (silent : e.Silent) : e.row? = none ∧ e.settled? = none := by
  obtain ⟨call, outcome⟩ := silent
  cases e with
  | row word vector => exact nomatch call
  | logged e =>
    have other := outcome e rfl
    cases e with
    | skipped word reason => exact nomatch other
    | failed word message => exact nomatch other
    | _ => exact ⟨rfl, rfl⟩
  | _ => exact ⟨rfl, rfl⟩

end BuildEvent

theorem WordResult.eq_of_row? {r : WordResult} {word : String} {v : FeatureVector Float}
    (written : r.row? = some (word, v)) : r = ⟨word, .row v⟩ := by
  obtain ⟨_, vector | reason | message⟩ := r
  · obtain ⟨rfl, rfl⟩ := Prod.mk.inj (Option.some.inj written)
    rfl
  · exact nomatch written
  · exact nomatch written

namespace Run

theorem settled_perm (r : Run) : r.settled.Perm (r.rows.map Prod.fst ++
    r.statistics.skippedWords.map Prod.fst ++ r.statistics.failedWords.map Prod.fst) :=
  BuildEvent.settled_perm r.trace.toList

theorem length_settled (r : Run) :
    (r.settled.length : Int) = r.rows.length + r.statistics.skipped + r.statistics.failed := by
  rw [r.settled_perm.length_eq]
  simp only [List.length_append, List.length_map]
  push_cast
  rfl

end Run

namespace Build
variable [Text.Halves]

/-- Whatever ends a build, the words that it has settled are among its words, once each. -/
theorem settled_subperm (s : Settings) (layout : KeyLayout Coordinate) (words : List String)
    (asked : Value) (o : Observer) {schedule : Schedule} (complete : schedule.Complete) :
    (build (.ofSettings s) layout words asked o schedule).run.settled.Subperm words := by
  obtain ⟨workers, given⟩ := workersOf_any s asked
  obtain ⟨sections, planned, handed⟩ := plan_ofSettings s words
  obtain ⟨final, fault, results, course, told, _, within, _⟩ :=
    build_course _ o.calm_passive complete given planned (chunkExtractor_eq s layout handed)
  have whole := flatten_blocks s.processing.positive words
  have all : final.settled.Subperm words := by
    have counted := told.accounted.2
    rw [whole] at within
    exact (final.settled_perm.trans counted).subperm.trans within.subperm
  have first := settled_first (.ofSettings s) layout words asked o schedule
  rw [course] at first
  exact first.sublist.subperm.trans all

end Build

theorem Command.resultOf_interrupted {report : BuildReport}
    (interrupted : report.fault = some .interrupted) (logging : Logging) (count : Nat) :
    resultOf logging count report = ⟨130, outputOf report.run.trace.toList,
      diagnosticsOf logging report.run.trace.toList ++ [.text (Console.cancellation
        report.run.written (count - report.run.written))]⟩ := by
  rw [resultOf, interrupted]

/-- The numbers of a build that is interrupted: the rows that were written, and as many words as are
left of the others. These are the words without a row that were not reported as skipped or failed
either, and all that were; so they were never processed exactly if no word was reported. -/
theorem cancelled_words_iff [Text.Halves] (s : Settings) (layout : KeyLayout Coordinate)
    (words : List String) (asked : Value) (o : Observer) (schedule : Schedule)
    (complete : schedule.Complete) (logging : Logging)
    (interrupted : (build (.ofSettings s) layout words asked o schedule).fault = some .interrupted) :
    let report := build (.ofSettings s) layout words asked o schedule
    let counts := report.run.statistics
    let written : ℤ := report.run.rows.length
    let cancelled : ℤ := words.length - written
    let left : ℤ := (words.diff report.run.settled).length
    (∃ told, Command.resultOf logging words.length report =
        ⟨130, Command.outputOf report.run.trace.toList,
          told ++ [.text (Console.cancellation written cancelled)]⟩) ∧
      report.run.settled.Subperm words ∧ cancelled = left + counts.skipped + counts.failed ∧
      (cancelled = left ↔ counts.skipped = 0 ∧ counts.failed = 0) := by
  intro report counts written cancelled left
  have within := Build.settled_subperm s layout words asked o complete
  have size : (words.diff report.run.settled).length + report.run.settled.length =
      words.length := by
    have all := List.subperm_append_diff_self_of_count_le fun word _ => within.count_le word
    rw [Nat.add_comm, ← List.length_append, all.length_eq]
  have parts : (report.run.settled.length : ℤ) = written + counts.skipped + counts.failed :=
    report.run.length_settled
  have skipped : 0 ≤ counts.skipped := Int.natCast_nonneg _
  have failed : 0 ≤ counts.failed := Int.natCast_nonneg _
  have told := Command.resultOf_interrupted interrupted logging words.length
  rw [Build.written_eq] at told
  refine ⟨⟨_, told⟩, within, ?_, ?_⟩
  · omega
  · omega

def Observer.refusingRows : Observer where
  hearsProgress := false
  respond
    | _, .row .. => .refuse
    | _, _ => .proceed

theorem Run.tellAll_refusingRows {r : Run} (going : r.interrupted = false)
    (log : List LogEvent) :
    r.tellAll .refusingRows (log.map .logged) = r.extend (log.map .logged) := by
  induction log generalizing r with
  | nil => exact (extend_nil r).symm
  | cons e log ih =>
    have told : r.tell .refusingRows (.logged e) = r.extend [.logged e] := by
      simp [tell, going, Observer.hears, Observer.refusingRows, take_eq]
    change (r.tell .refusingRows (.logged e)).tellAll .refusingRows (log.map .logged) = _
    rw [told, ih (by exact going), extend_append]
    rfl

theorem Run.emit_refusingRows {r : Run} (going : r.interrupted = false) (total : Nat)
    (word other reason : String) (v : FeatureVector Float) :
    r.emit .refusingRows total [⟨word, .skipped reason⟩, ⟨other, .row v⟩] =
      { r.extend [.logged (.skipped word reason), .skip word reason] with
        done := r.done + 2
        interrupted := true } := by
  simp [emit, tellAll, WordResult.events, tell, going, Observer.hears, Observer.refusingRows,
    extend, take, BuildEvent.isRow, ← Array.toList_inj]

namespace Build
variable [Text.Halves] {words : List String} {o : Observer}

/-- A build of no more words than a chunk holds, ended while they are made known. -/
theorem ended_in_first_chunk (s : Settings) (layout : KeyLayout Coordinate) (asked : Value)
    (schedule : Schedule) (nonempty : words ≠ []) (few : words.length ≤ s.processing.chunkSize) :
    ∃ workers,
      let started := Run.start.tell o (opening layout words workers)
      let report := (extractorOf s layout).report words
      let final := (started.tellAll o (report.log.map .logged)).emit o words.length report.results
      started.interrupted = false → final.interrupted = true →
        build (.ofSettings s) layout words asked o schedule = ⟨final, some .interrupted⟩ := by
  obtain ⟨workers, given⟩ := workersOf_any s asked
  obtain ⟨sections, planned, handed⟩ := plan_ofSettings s words
  have one : blocks s.processing.chunkSize words = [words] := by
    rw [blocks_of_ne_nil s.processing.positive nonempty, List.drop_of_length_le few,
      List.take_of_length_le few, blocks_nil]
  rw [one] at planned
  refine ⟨workers, fun going ended => ?_⟩
  have processed := processChunk_ok (chunkExtractor_eq s layout handed) words
  have single : (isOne workers || decide ([words].length ≤ 1)) = true := Bool.or_true _
  rw [build_planned given planned going]
  dsimp only
  rw [if_pos single, inline, processed]
  exact congrArg (finish o) (if_pos ended)

end Build

theorem Build.before_first_row (schedule : Schedule) :
    let layout := (KeyLayout.ofRows [⟨["a", "b", "c"], 0⟩] 10 10).map Coordinate.whole
    let report := @build .absent (.ofSettings .default) layout ["!", "ab"] .null .refusingRows
      schedule
    report.fault = some .interrupted ∧ report.run.rows = [] ∧ report.run.settled = ["!"] := by
  intro layout report
  let _ : Text.Halves := .absent
  let words := ["!", "ab"]
  let e := extractorOf .default layout
  let log := (e.report words).log.map BuildEvent.logged
  obtain ⟨workers, ended⟩ := ended_in_first_chunk .default layout .null schedule
    (List.cons_ne_nil "!" ["ab"]) (by decide)
  let started := Run.start.tell .refusingRows (opening layout words workers)
  have going : started.interrupted = false := rfl
  obtain ⟨reason, first⟩ : ∃ reason, e.resultOf none "!" = ⟨"!", .skipped reason⟩ := ⟨_, rfl⟩
  obtain ⟨v, second⟩ := row?_three_keys .default (rfl : Word.letters "ab" = ['a', 'b'])
  have results : (e.report words).results = [⟨"!", .skipped reason⟩, ⟨"ab", .row v⟩] := by
    rw [e.results_report, ← first, ← WordResult.eq_of_row? second]
    rfl
  let told := [BuildEvent.logged (.skipped "!" reason), .skip "!" reason]
  let final : Run :=
    { (started.extend log).extend told with done := 2, interrupted := true }
  have emitted : (started.tellAll .refusingRows log).emit .refusingRows 2
      (e.report words).results = final := by
    rw [results, Run.tellAll_refusingRows going, Run.emit_refusingRows (by exact going)]
    rfl
  have course : report = ⟨final, some .interrupted⟩ :=
    (ended going (congrArg Run.interrupted emitted)).trans
      (congrArg (BuildReport.mk · (some .interrupted)) emitted)
  have trace : final.trace.toList = opening layout words workers :: log ++ told := by
    have first : started.trace.toList = [opening layout words workers] := rfl
    simp [final, Run.extend, first]
  have silent := fun event member => (e.silent_report words event member).eq_none
  have rows : log.filterMap BuildEvent.row? = [] :=
    List.filterMap_eq_nil_iff.mpr fun event member => (silent event member).1
  have settled : log.filterMap BuildEvent.settled? = [] :=
    List.filterMap_eq_nil_iff.mpr fun event member => (silent event member).2
  rw [course, Run.rows, Run.settled, trace, List.cons_append, List.filterMap_cons_none rfl,
    List.filterMap_cons_none rfl, List.filterMap_append, List.filterMap_append, rows, settled]
  exact ⟨rfl, rfl, rfl⟩

/-- Two words that are both left without a row, where one of them was reported. -/
theorem cancelled_words_first_row :
    let layout := (KeyLayout.ofRows [⟨["a", "b", "c"], 0⟩] 10 10).map Coordinate.whole
    let words := ["!", "ab"]
    let report := @build .absent (.ofSettings .default) layout words .null .refusingRows .backwards
    let counts := report.run.statistics
    Schedule.backwards.Complete ∧ report.fault = some .interrupted ∧ report.run.rows = [] ∧
      2 = (words.diff report.run.settled).length + counts.skipped + counts.failed := by
  intro layout words report counts
  let _ : Text.Halves := .absent
  obtain ⟨interrupted, rows, _⟩ := Build.before_first_row .backwards
  have complete := Schedule.complete_backwards
  obtain ⟨_, _, parts, _⟩ := cancelled_words_iff .default layout words .null .refusingRows
    .backwards complete (.initial .empty) interrupted
  rw [rows] at parts
  exact ⟨complete, interrupted, rows, parts⟩

/-- Such a build calls both words cancelled. -/
theorem cancelled_words_reported :
    let layout := (KeyLayout.ofRows [⟨["a", "b", "c"], 0⟩] 10 10).map Coordinate.whole
    let words := ["!", "ab"]
    let report := @build .absent (.ofSettings .default) layout words .null .refusingRows .inOrder
    report.fault = some .interrupted ∧ report.run.rows = [] ∧
      words.diff report.run.settled = ["ab"] ∧
      ∀ logging, ∃ told, Command.resultOf logging words.length report =
        ⟨130, Command.outputOf report.run.trace.toList,
          told ++ [.text (Console.cancellation 0 2)]⟩ := by
  intro layout words report
  let _ : Text.Halves := .absent
  obtain ⟨interrupted, rows, settled⟩ := Build.before_first_row .inOrder
  refine ⟨interrupted, rows, ?_, fun logging => ?_⟩
  · rw [settled]
    decide
  · have told := Command.resultOf_interrupted interrupted logging words.length
    rw [Build.written_eq, rows] at told
    exact ⟨_, told⟩

end GestureLexicon
