import GestureLexicon.Proofs.Passing

/-!
The course of a build before an observer who ends nothing. What such a build has made known is the
calls for the results of all chunks so far, in their order, each chunk closed by the progress made;
its counts follow from the same results. Reports on paths, on workers' doings and on the build as a
whole are no calls and count nothing.
-/

namespace GestureLexicon

namespace BuildEvent

/-- What a build hands to the writer or to a callback. -/
def isCall : BuildEvent → Bool
  | row .. | skip .. | progress .. => true
  | logged _ | loggedAside _ => false

def isProgress : BuildEvent → Bool
  | progress .. => true
  | _ => false

end BuildEvent

def LogEvent.isOutcome : LogEvent → Bool
  | processed _ | skipped .. | failed .. => true
  | _ => false

namespace WordResult

def call : WordResult → BuildEvent
  | ⟨word, .row vector⟩ => .row word vector
  | ⟨word, .skipped reason⟩ => .skip word reason
  | ⟨word, .failed message⟩ => .skip word message

def log : WordResult → LogEvent
  | ⟨word, .row _⟩ => .processed word
  | ⟨word, .skipped reason⟩ => .skipped word reason
  | ⟨word, .failed message⟩ => .failed word message

def isRow : WordResult → Bool
  | ⟨_, .row _⟩ => true
  | _ => false

def skipped? : WordResult → Option (String × String)
  | ⟨word, .skipped reason⟩ => some (word, reason)
  | _ => none

def failed? : WordResult → Option (String × String)
  | ⟨word, .failed message⟩ => some (word, message)
  | _ => none

end WordResult

def Statistics.ofResults (results : List WordResult) : Statistics where
  processed := results.countP WordResult.isRow
  skipped := (results.filterMap WordResult.skipped?).length
  failed := (results.filterMap WordResult.failed?).length
  skippedWords := results.filterMap WordResult.skipped?
  failedWords := results.filterMap WordResult.failed?

/-- The calls for the results of chunks, each chunk closed by the progress made. -/
def chunkCalls (total : Nat) : Nat → List (List WordResult) → List BuildEvent
  | _, [] => []
  | done, chunk :: rest =>
    chunk.map WordResult.call ++
      .progress (done + chunk.length) total :: chunkCalls total (done + chunk.length) rest

theorem chunkCalls_append (total done : Nat) (before after : List (List WordResult)) :
    chunkCalls total done (before ++ after) =
      chunkCalls total done before ++ chunkCalls total (done + before.flatten.length) after := by
  induction before generalizing done with
  | nil => rfl
  | cons chunk before ih =>
    rw [List.cons_append, chunkCalls, ih, chunkCalls, List.append_assoc, List.cons_append,
      List.flatten_cons, List.length_append, Nat.add_assoc]

/-- Every event takes place. -/
def Observer.Passive (o : Observer) : Prop :=
  ∀ trace e, o.respond trace e = .proceed

theorem Observer.filterMap_heard (o : Observer) {β : Type} {f : BuildEvent → Option β}
    (skips : ∀ word reason, f (.skip word reason) = none)
    (progress : ∀ done total, f (.progress done total) = none) (events : List BuildEvent) :
    (events.filter o.hears).filterMap f = events.filterMap f := by
  rw [List.filterMap_filter]
  refine List.filterMap_congr fun e _ => ?_
  cases e with
  | skip word reason =>
    rw [skips]
    exact ite_self none
  | progress done total =>
    rw [progress]
    exact ite_self none
  | _ => rfl

/-- Neither a call nor the outcome of a word. -/
def BuildEvent.Silent (e : BuildEvent) : Prop :=
  e.isCall = false ∧ ∀ entry, e.logEvent? = some entry → entry.isOutcome = false

namespace Run

def calls (r : Run) : List BuildEvent :=
  r.trace.toList.filter BuildEvent.isCall

def outcomes (r : Run) : List LogEvent :=
  r.logEvents.filter LogEvent.isOutcome

def extend (r : Run) (events : List BuildEvent) : Run :=
  { r with
    trace := r.trace ++ events.toArray
    written := r.written + events.countP BuildEvent.isRow }

variable (r : Run)

theorem extend_nil : r.extend [] = r := by
  simp [extend]

theorem extend_append (first second : List BuildEvent) :
    (r.extend first).extend second = r.extend (first ++ second) := by
  simp [extend, Nat.add_assoc]

theorem take_eq (e : BuildEvent) : r.take e = r.extend [e] := by
  cases e <;> simp [take, extend, BuildEvent.isRow]

theorem overhear_eq (log : List LogEvent) :
    r.overhear log = r.extend (log.map .loggedAside) := by
  have zero : (log.map BuildEvent.loggedAside).countP BuildEvent.isRow = 0 := by
    rw [List.countP_map, List.countP_eq_zero]
    exact fun _ _ => Bool.false_ne_true
  rw [overhear, extend, zero]
  rfl

theorem calls_extend (events : List BuildEvent) :
    (r.extend events).calls = r.calls ++ events.filter BuildEvent.isCall := by
  simp [calls, extend]

theorem outcomes_extend (events : List BuildEvent) :
    (r.extend events).outcomes =
      r.outcomes ++ (events.filterMap BuildEvent.logEvent?).filter LogEvent.isOutcome := by
  simp [outcomes, logEvents, extend]

variable {r} {o : Observer}

theorem tell_eq (passive : o.Passive) (going : r.interrupted = false) (e : BuildEvent) :
    r.tell o e = r.extend ([e].filter o.hears) := by
  cases heard : o.hears e with
  | true => simp [tell, going, heard, passive _ _, take_eq]
  | false => simp [tell, heard, extend]

theorem tellAll_eq (passive : o.Passive) (going : r.interrupted = false)
    (events : List BuildEvent) : r.tellAll o events = r.extend (events.filter o.hears) := by
  induction events generalizing r with
  | nil => exact (extend_nil r).symm
  | cons e events ih =>
    change (r.tell o e).tellAll o events = _
    rw [tell_eq passive going, ih (by exact going), extend_append, ← List.filter_append]
    rfl

/-- Before an observer who ends nothing a chunk adds the events of its results and its progress. -/
theorem emit_eq (passive : o.Passive) (going : r.interrupted = false) (total : Nat)
    (results : List WordResult) :
    r.emit o total results =
      { r.extend ((results.flatMap WordResult.events ++
          [BuildEvent.progress (r.done + results.length) total]).filter o.hears) with
        done := r.done + results.length } := by
  rw [emit, tellAll_eq passive going, tell_eq passive (by exact going), List.filter_append]
  simp [extend, Nat.add_assoc]

theorem extend_silent {events : List BuildEvent} (silent : ∀ e ∈ events, e.Silent) :
    (r.extend events).calls = r.calls ∧ (r.extend events).outcomes = r.outcomes := by
  have calls : events.filter BuildEvent.isCall = [] :=
    List.filter_eq_nil_iff.mpr fun e member => by simp [(silent e member).1]
  have outcomes : (events.filterMap BuildEvent.logEvent?).filter LogEvent.isOutcome = [] := by
    refine List.filter_eq_nil_iff.mpr fun entry member => ?_
    obtain ⟨e, among, logged⟩ := List.mem_filterMap.mp member
    simp [(silent e among).2 entry logged]
  rw [calls_extend, outcomes_extend, calls, outcomes, List.append_nil, List.append_nil]
  exact ⟨rfl, rfl⟩

end Run

namespace WordResult

theorem calls_events (results : List WordResult) :
    (results.flatMap events).filter BuildEvent.isCall = results.map call := by
  induction results with
  | nil => rfl
  | cons result results ih =>
    rw [List.flatMap_cons, List.filter_append, ih, List.map_cons]
    obtain ⟨word, vector | reason | message⟩ := result <;> rfl

theorem outcomes_events (results : List WordResult) :
    ((results.flatMap events).filterMap BuildEvent.logEvent?).filter LogEvent.isOutcome =
      results.map log := by
  induction results with
  | nil => rfl
  | cons result results ih =>
    rw [List.flatMap_cons, List.filterMap_append, List.filter_append, ih, List.map_cons]
    obtain ⟨word, vector | reason | message⟩ := result <;> rfl

end WordResult

namespace Statistics

theorem ofEvents_outcomes (events : List LogEvent) :
    ofEvents (events.filter LogEvent.isOutcome) = ofEvents events := by
  have processed : (events.filter LogEvent.isOutcome).countP LogEvent.isProcessed =
      events.countP LogEvent.isProcessed := by
    rw [List.countP_filter]
    refine List.countP_congr fun e _ => ?_
    cases e <;> exact Iff.rfl
  have skipped : (events.filter LogEvent.isOutcome).filterMap LogEvent.skippedWord? =
      events.filterMap LogEvent.skippedWord? := by
    rw [List.filterMap_filter]
    refine List.filterMap_congr fun e _ => ?_
    cases e <;> rfl
  have failed : (events.filter LogEvent.isOutcome).filterMap LogEvent.failedWord? =
      events.filterMap LogEvent.failedWord? := by
    rw [List.filterMap_filter]
    refine List.filterMap_congr fun e _ => ?_
    cases e <;> rfl
  simp only [ofEvents, processed, skipped, failed]

theorem ofEvents_log (results : List WordResult) :
    ofEvents (results.map WordResult.log) = ofResults results := by
  have processed : (results.map WordResult.log).countP LogEvent.isProcessed =
      results.countP WordResult.isRow := by
    rw [List.countP_map]
    refine List.countP_congr fun result _ => ?_
    obtain ⟨word, vector | reason | message⟩ := result <;> exact Iff.rfl
  have skipped : (results.map WordResult.log).filterMap LogEvent.skippedWord? =
      results.filterMap WordResult.skipped? := by
    rw [List.filterMap_map]
    refine List.filterMap_congr fun result _ => ?_
    obtain ⟨word, vector | reason | message⟩ := result <;> rfl
  have failed : (results.map WordResult.log).filterMap LogEvent.failedWord? =
      results.filterMap WordResult.failed? := by
    rw [List.filterMap_map]
    refine List.filterMap_congr fun result _ => ?_
    obtain ⟨word, vector | reason | message⟩ := result <;> rfl
  simp only [ofEvents, ofResults, processed, skipped, failed]

theorem total_ofResults (results : List WordResult) : (ofResults results).total = results.length := by
  induction results with
  | nil => rfl
  | cons result results ih =>
    rw [total, ofResults] at ih ⊢
    obtain ⟨word, vector | reason | message⟩ := result
    all_goals
      simp only [List.countP_cons, List.filterMap_cons, WordResult.isRow, WordResult.skipped?,
        WordResult.failed?, List.length_cons, Nat.cast_add] at ih ⊢
      simp only [↓reduceIte, Bool.false_eq_true]
      omega

end Statistics

namespace Run
variable {r : Run} {o : Observer} {total : Nat} {chunks : List (List WordResult)}

/-- A build under way that has made known the results of chunks, and nothing else that counts. -/
structure Told (o : Observer) (total : Nat) (r : Run) (chunks : List (List WordResult)) : Prop where
  going : r.interrupted = false
  whole : r.cancelled = none
  done : r.done = chunks.flatten.length
  outcomes : r.outcomes = chunks.flatten.map WordResult.log
  calls : r.calls = (chunkCalls total 0 chunks).filter o.hears

theorem told_start (o : Observer) (total : Nat) : start.Told o total [] :=
  ⟨rfl, rfl, rfl, rfl, rfl⟩

namespace Told

theorem extend (told : r.Told o total chunks) {events : List BuildEvent}
    (silent : ∀ e ∈ events, e.Silent) : (r.extend events).Told o total chunks := by
  obtain ⟨calls, outcomes⟩ := r.extend_silent silent
  exact ⟨told.going, told.whole, told.done, outcomes.trans told.outcomes, calls.trans told.calls⟩

theorem tell (told : r.Told o total chunks) (passive : o.Passive) {e : BuildEvent}
    (silent : e.Silent) : (r.tell o e).Told o total chunks := by
  rw [tell_eq passive told.going]
  refine told.extend fun other member => ?_
  obtain rfl := List.mem_singleton.mp (List.mem_filter.mp member).1
  exact silent

theorem tellAll (told : r.Told o total chunks) (passive : o.Passive) {events : List BuildEvent}
    (silent : ∀ e ∈ events, e.Silent) : (r.tellAll o events).Told o total chunks := by
  rw [tellAll_eq passive told.going]
  exact told.extend fun e member => silent e (List.mem_filter.mp member).1

theorem overhear (told : r.Told o total chunks) (log : List LogEvent) :
    (r.overhear log).Told o total chunks := by
  have aside : ∀ e ∈ log.map BuildEvent.loggedAside, e.Silent := by
    intro e member
    obtain ⟨entry, _, rfl⟩ := List.mem_map.mp member
    exact ⟨rfl, fun _ logged => nomatch logged⟩
  rw [overhear_eq]
  exact told.extend aside

theorem emit (told : r.Told o total chunks) (passive : o.Passive) (results : List WordResult) :
    (r.emit o total results).Told o total (chunks ++ [results]) := by
  let progress : BuildEvent := .progress (r.done + results.length) total
  let events := results.flatMap WordResult.events ++ [progress]
  have emitted : r.emit o total results =
      { r.extend (events.filter o.hears) with done := r.done + results.length } :=
    emit_eq passive told.going total results
  have calls : events.filter BuildEvent.isCall = results.map WordResult.call ++ [progress] := by
    rw [List.filter_append, WordResult.calls_events]
    rfl
  have outcomes : (events.filterMap BuildEvent.logEvent?).filter LogEvent.isOutcome =
      results.map WordResult.log := by
    rw [List.filterMap_append, List.filter_append, WordResult.outcomes_events]
    exact List.append_nil _
  have closing : chunkCalls total chunks.flatten.length [results] =
      results.map WordResult.call ++ [progress] := by
    rw [← told.done]
    rfl
  have flat : (chunks ++ [results]).flatten = chunks.flatten ++ results := by simp
  rw [emitted]
  refine ⟨told.going, told.whole, ?_, ?_, ?_⟩
  · rw [flat, List.length_append, ← told.done]
  · change (r.extend (events.filter o.hears)).outcomes = _
    rw [outcomes_extend, o.filterMap_heard (fun _ _ => rfl) fun _ _ => rfl, outcomes, told.outcomes,
      flat, List.map_append]
  · change (r.extend (events.filter o.hears)).calls = _
    rw [calls_extend, List.filter_comm, calls, told.calls, chunkCalls_append, Nat.zero_add,
      closing]
    exact (List.filter_append _ _).symm

theorem counted (told : r.Told o total chunks) :
    Statistics.ofEvents r.logEvents = .ofResults chunks.flatten := by
  rw [← Statistics.ofEvents_outcomes, ← Statistics.ofEvents_log]
  exact congrArg Statistics.ofEvents told.outcomes

theorem statistics (told : r.Told o total chunks) :
    r.statistics = .ofResults chunks.flatten := by
  rw [Run.statistics, told.counted, told.whole]
  rfl

end Told

end Run

end GestureLexicon
