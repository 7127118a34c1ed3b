import GestureLexicon.Proofs.BuildOrder
import GestureLexicon.Proofs.Interruption

/-!
Builds that an observer may end anywhere. Each step of such a build is the step that it takes before
an observer who ends nothing, or ends the build on the way there; so the words that are settled by
the end are the first of those that a build settles which nobody ends. Main statement:
`settled_first`.
-/

namespace GestureLexicon

/-- The word that has a row with an event, or is reported as skipped or failed. -/
def BuildEvent.settled? : BuildEvent → Option String
  | row word _ | logged (.skipped word _) | logged (.failed word _) => some word
  | _ => none

def Run.settled (r : Run) : List String :=
  r.trace.toList.filterMap BuildEvent.settled?

/-- Where a build stands with what one of its parts returns: the run so far, and whether it was
ended. -/
structure Standing (β : Type) where
  run : β → Run
  ended : β → Prop

variable {β γ : Type}

namespace Standing

def of (run : β → Run) : Standing β :=
  ⟨run, fun x => (run x).interrupted = true⟩

def report : Standing BuildReport :=
  ⟨BuildReport.run, fun x => x.fault = some .interrupted⟩

end Standing

/-- What becomes of a run before an observer, beside what becomes of it before one who ends nothing:
the same, or the build was ended on the way. -/
structure Beside (standing : Standing β) (r : Run) (before calm : β) : Prop where
  going : (standing.run calm).interrupted = false
  grown : r.settled <+: (standing.run calm).settled
  agrees : before = calm ∨
    standing.ended before ∧ (standing.run before).settled <+: (standing.run calm).settled

namespace Beside
variable {standing : Standing β} {standing' : Standing γ} {r : Run} {before calm x : β}

theorem refl (here : standing.run x = r) (going : r.interrupted = false) :
    Beside standing r x x := by
  subst here
  exact ⟨going, List.prefix_rfl, .inl rfl⟩

theorem next (first : Beside standing r before calm) (f g : β → γ)
    (stays : ∀ x, standing.ended x →
      standing'.ended (f x) ∧ (standing'.run (f x)).settled = (standing.run x).settled)
    (second : Beside standing' (standing.run calm) (f calm) (g calm)) :
    Beside standing' r (f before) (g calm) := by
  refine ⟨second.going, first.grown.trans second.grown, ?_⟩
  rcases first.agrees with rfl | ⟨ended, earlier⟩
  · exact second.agrees
  · obtain ⟨ended', same⟩ := stays before ended
    exact .inr ⟨ended', same ▸ earlier.trans second.grown⟩

theorem settled_first (beside : Beside standing r before calm) :
    (standing.run before).settled <+: (standing.run calm).settled := by
  rcases beside.agrees with rfl | ⟨_, earlier⟩
  · exact List.prefix_rfl
  · exact earlier

theorem after {r' : Run} (grown : r.settled <+: r'.settled)
    (beside : Beside standing r' before calm) : Beside standing r before calm :=
  ⟨beside.going, grown.trans beside.grown, beside.agrees⟩

theorem map (beside : Beside standing r before calm) (f : β → γ)
    (same : ∀ x, standing'.run (f x) = standing.run x)
    (ends : ∀ x, standing.ended x → standing'.ended (f x)) :
    Beside standing' r (f before) (f calm) := by
  refine beside.next f f (fun x ended => ⟨ends x ended, congrArg Run.settled (same x)⟩) ?_
  exact .refl (same calm) beside.going

theorem orStop {run : β → Run} (first : Beside (.of run) r before calm) (stop stop' go go' : β → γ)
    (ends : ∀ x, standing'.ended (stop x) ∧ (standing'.run (stop x)).settled = (run x).settled)
    (second : Beside standing' (run calm) (go calm) (go' calm)) :
    Beside standing' r (if (run before).interrupted then stop before else go before)
      (if (run calm).interrupted then stop' calm else go' calm) := by
  let f (x : β) := if (run x).interrupted then stop x else go x
  let g (x : β) := if (run x).interrupted then stop' x else go' x
  refine first.next f g (fun x ended => ?_) ?_
  · have stopped : f x = stop x := if_pos ended
    rw [stopped]
    exact ends x
  · have open' : ¬(run calm).interrupted = true := Bool.eq_false_iff.mp first.going
    have here : f calm = go calm := if_neg open'
    have there : g calm = go' calm := if_neg open'
    rw [here, there]
    exact second

theorem foldl {run : β → Run} {f g : β → γ → β}
    (each : ∀ x a, (run x).interrupted = false → Beside (.of run) (run x) (f x a) (g x a))
    (stays : ∀ x a, (run x).interrupted = true → f x a = x) (going : (run x).interrupted = false)
    (steps : List γ) : Beside (.of run) (run x) (steps.foldl f x) (steps.foldl g x) := by
  induction steps generalizing x with
  | nil => exact .refl rfl going
  | cons a steps ih =>
    have first := each x a going
    have kept (x : β) (ended : (run x).interrupted = true) : steps.foldl f x = x :=
      List.foldl_fixed' (fun a => stays x a ended) steps
    refine first.next (steps.foldl f ·) (steps.foldl g ·) (fun x ended => ?_) (ih first.going)
    rw [kept x ended]
    exact ⟨ended, rfl⟩

end Beside

namespace Run
variable {r : Run} {o : Observer}

theorem tell_ended (ended : r.interrupted = true) (e : BuildEvent) : r.tell o e = r := by
  rw [tell, ended]
  rfl

theorem settled_tell (r : Run) (o : Observer) (e : BuildEvent) (silent : e.settled? = none) :
    (r.tell o e).settled = r.settled := by
  have pushed (b : Bool) : ({ r.take e with interrupted := b } : Run).settled = r.settled := by
    simp [settled, take, silent]
  rw [tell]
  split
  · rfl
  · split
    · exact pushed r.interrupted
    · rfl
    · exact pushed true

theorem tell_beside (going : r.interrupted = false) (o : Observer) (e : BuildEvent) :
    Beside (.of id) r (r.tell o e) (r.tell o.calm e) := by
  rw [tell_eq o.calm_passive going, o.hears_calm]
  have grown : r.settled <+: (r.extend ([e].filter o.hears)).settled := by
    simp [settled, extend]
  refine ⟨going, grown, ?_⟩
  cases heard : o.hears e with
  | false =>
    left
    simp [tell, heard, extend]
  | true =>
    cases answer : o.respond r.trace e with
    | proceed =>
      left
      simp [tell, going, heard, answer, take_eq]
    | refuse =>
      right
      have told : r.tell o e = r.ended := by simp [tell, going, heard, answer, ended]
      rw [told]
      exact ⟨rfl, grown⟩
    | interrupt =>
      right
      have told : r.tell o e = (r.extend ([e].filter o.hears)).ended := by
        simp [tell, going, heard, answer, take_eq, ended]
      rw [told]
      exact ⟨rfl, List.prefix_rfl⟩

theorem tellAll_beside (going : r.interrupted = false) (o : Observer) (events : List BuildEvent) :
    Beside (.of id) r (r.tellAll o events) (r.tellAll o.calm events) :=
  Beside.foldl (fun _ e going => tell_beside going o e) (fun _ e ended => tell_ended ended e) going
    events

theorem tellAll_ended (ended : r.interrupted = true) (events : List BuildEvent) :
    r.tellAll o events = r :=
  List.foldl_fixed' (fun e => tell_ended ended e) events

theorem emit_ended (ended : r.interrupted = true) (total : Nat) (results : List WordResult) :
    (r.emit o total results).interrupted = true ∧
      (r.emit o total results).settled = r.settled := by
  rw [emit, tellAll_ended ended, tell_ended (by exact ended)]
  exact ⟨ended, rfl⟩

theorem emit_beside (going : r.interrupted = false) (o : Observer) (total : Nat)
    (results : List WordResult) :
    Beside (.of id) r (r.emit o total results) (r.emit o.calm total results) := by
  let done := r.done + results.length
  let progress (o : Observer) (x : Run) := { x with done := done }.tell o (.progress done total)
  have told := tellAll_beside going o (results.flatMap WordResult.events)
  refine told.next (progress o) (progress o.calm) (fun x ended => ?_) ?_
  · have kept : progress o x = { x with done := done } := tell_ended (by exact ended) _
    rw [kept]
    exact ⟨ended, rfl⟩
  · have last := tell_beside (r := { r.tellAll o.calm _ with done := done }) told.going o
      (.progress done total)
    exact ⟨last.going, last.grown, last.agrees⟩

theorem chunk_beside (going : r.interrupted = false) (o : Observer) (total : Nat)
    (log : List BuildEvent) (results : List WordResult) :
    Beside (.of id) r ((r.tellAll o log).emit o total results)
      ((r.tellAll o.calm log).emit o.calm total results) := by
  have heard := tellAll_beside going o log
  exact heard.next (·.emit o total results) (·.emit o.calm total results)
    (fun x ended => emit_ended ended total results) (emit_beside heard.going o total results)

end Run

namespace Sequencer
variable {o : Observer} {total : Nat} {run : Run}

theorem release_beside (going : run.interrupted = false) (o : Observer) (total next : Nat)
    (queue : List (Nat × List WordResult)) :
    Beside (.of Prod.fst) run (release o total run next queue)
      (release o.calm total run next queue) := by
  induction queue generalizing run next with
  | nil => exact .refl rfl going
  | cons entry rest ih =>
    obtain ⟨index, results⟩ := entry
    rw [release, release]
    split
    · exact .refl rfl going
    · have emitted := run.emit_beside going o total results
      refine emitted.next (release o total · (next + 1) rest)
        (release o.calm total · (next + 1) rest) (fun x ended => ?_) (ih emitted.going _)
      have stopped : release o total x (next + 1) rest = (x, next + 1, rest) :=
        release_ended ended _ _
      rw [stopped]
      exact ⟨ended, rfl⟩

variable {process : List String → Except ChunkFault ChunkReport} {chunks : Array (List String)}
variable {s : Sequencer}

theorem receive_beside (going : s.run.interrupted = false) (o : Observer) (a : Arrival) :
    Beside (.of Sequencer.run) s.run (s.receive o total process chunks a)
      (s.receive o.calm total process chunks a) := by
  let report := reportOf process (chunks.getD a.index []) a.failure
  let sequencer (released : Run × Nat × List (Nat × List WordResult)) : Sequencer :=
    ⟨released.1, released.2.1, released.2.2, s.pending.erase a.index⟩
  have heard : s.run.settled <+: (s.run.overhear report.log).settled := by
    simp [Run.settled, Run.overhear]
  have open' : (s.run.overhear report.log).interrupted = false := going
  have released := release_beside open' o total s.next (enqueue a.index report.results s.ready)
  rw [receive, receive, going, if_neg Bool.false_ne_true, if_neg Bool.false_ne_true]
  exact (released.map sequencer (fun _ => rfl) (fun _ ended => ended)).after heard

theorem settled_cancel (s : Sequencer) (o : Observer) (chunks : Array (List String)) :
    (s.cancel o chunks).settled = s.run.settled := by
  have noted := Run.settled_tell { s.run with interrupted := false } o
    (.logged .cancellation) rfl
  exact noted

theorem process_beside (going : run.interrupted = false) (o : Observer) (total : Nat)
    (process : List String → Except ChunkFault ChunkReport) (chunks : List (List String))
    (arrivals : List Arrival) :
    Beside (.of id) run (Sequencer.process o total process chunks arrivals run)
      (Sequencer.process o.calm total process chunks arrivals run) := by
  have each (s : Sequencer) (a : Arrival) (going : s.run.interrupted = false) :
      Beside (.of Sequencer.run) s.run (s.receive o total process chunks.toArray a)
        (s.receive o.calm total process chunks.toArray a) := receive_beside going o a
  have received := Beside.foldl each (fun _ _ ended => if_pos ended)
    (x := ⟨run, 0, [], List.range chunks.length⟩) going arrivals
  exact received.orStop (·.cancel o chunks.toArray) (·.cancel o.calm chunks.toArray)
    Sequencer.run Sequencer.run (fun s => ⟨rfl, settled_cancel s o _⟩) (.refl rfl received.going)

end Sequencer

namespace Build
variable {run : Run} {o : Observer}

theorem inline_beside (going : run.interrupted = false) (o : Observer) (total : Nat)
    (process : List String → Except ChunkFault ChunkReport) (chunks : List (List String)) :
    Beside .report run (inline o total process chunks run)
      (inline o.calm total process chunks run) := by
  induction chunks generalizing run with
  | nil => exact .refl rfl going
  | cons chunk chunks ih =>
    rw [inline, inline]
    cases process chunk with
    | error fault => exact .refl rfl going
    | ok report =>
      have first := Run.chunk_beside going o total (report.log.map .logged) report.results
      exact first.orStop (⟨·, some .interrupted⟩) (⟨·, some .interrupted⟩)
        (inline o total process chunks) (inline o.calm total process chunks)
        (fun _ => ⟨rfl, rfl⟩) (ih first.going)

theorem report_beside {r before calm : Run} (beside : Beside (.of id) r before calm) :
    Beside .report r ⟨before, if before.interrupted then some .interrupted else none⟩
      ⟨calm, if calm.interrupted then some .interrupted else none⟩ :=
  beside.map (fun run => BuildReport.mk run (if run.interrupted then some .interrupted else none))
    (fun _ => rfl) (fun _ ended => if_pos ended)

theorem parallel_beside (going : run.interrupted = false) (o : Observer) (total : Nat)
    (process : List String → Except ChunkFault ChunkReport) (workers : Value)
    (schedule : Schedule) (chunks : List (List String)) :
    Beside .report run (parallel o total process workers schedule chunks run)
      (parallel o.calm total process workers schedule chunks run) := by
  rw [parallel, parallel]
  cases checkWorkers workers with
  | error fault => exact .refl rfl going
  | ok _ => exact report_beside (Sequencer.process_beside going o total process chunks _)

theorem finish_beside {before calm : BuildReport} (beside : Beside .report run before calm)
    (o : Observer) : Beside .report run (finish o before) (finish o.calm calm) := by
  refine beside.next (finish o) (finish o.calm) (fun report ended => ?_) ?_
  · have kept : finish o report = report := by rw [finish, (ended : report.fault = _)]
    rw [kept]
    exact ⟨ended, rfl⟩
  · obtain ⟨run, fault⟩ := calm
    cases fault with
    | some fault => exact .refl rfl beside.going
    | none => exact report_beside (Run.tell_beside beside.going o _)

variable [Text.Halves]

/-- Up to where it may be ended, a build is the one that nobody ends. -/
theorem build_beside (draft : Draft) (layout : KeyLayout Coordinate) (words : List String)
    (asked : Value) (o : Observer) (schedule : Schedule) :
    Beside .report Run.start (build draft layout words asked o schedule)
      (build draft layout words asked o.calm schedule) := by
  have fresh : Run.start.interrupted = false := rfl
  rw [build, build]
  cases workersOf draft asked with
  | error fault => exact .refl rfl fresh
  | ok workers =>
    have first := Run.tell_beside fresh o (opening layout words workers)
    let stop (run : Run) : BuildReport := ⟨run, some .interrupted⟩
    have stopped (run : Run) : (stop run).fault = some .interrupted ∧
        (stop run).run.settled = run.settled := ⟨rfl, rfl⟩
    cases plan draft words with
    | error fault =>
      let failed (run : Run) : BuildReport := ⟨run, some fault⟩
      exact first.orStop stop stop failed failed stopped (.refl rfl first.going)
    | ok pair =>
      obtain ⟨chunks, sections⟩ := pair
      let process (chunk : List String) := processChunk chunk layout.toRecord sections
      let further (o : Observer) (run : Run) := finish o (
        if isOne workers || chunks.length ≤ 1 then inline o words.length process chunks run
        else parallel o words.length process workers schedule chunks run)
      refine first.orStop stop stop (further o) (further o.calm) stopped (finish_beside ?_ o)
      split
      · exact inline_beside first.going o _ _ _
      · exact parallel_beside first.going o _ _ _ _ _

/-- The words that a build has settled, whatever ended it, are the first that are settled if nobody
ends it. -/
theorem settled_first (draft : Draft) (layout : KeyLayout Coordinate) (words : List String)
    (asked : Value) (o : Observer) (schedule : Schedule) :
    (build draft layout words asked o schedule).run.settled <+:
      (build draft layout words asked o.calm schedule).run.settled :=
  (build_beside draft layout words asked o schedule).settled_first

end Build

end GestureLexicon
