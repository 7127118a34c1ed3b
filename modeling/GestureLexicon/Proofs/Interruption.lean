import GestureLexicon.Proofs.Sequencing

/-!
Builds that an observer ends with a report on progress. Up to that report such an observer is as
good as one who ends nothing, so the chunks that were made known are those before the report, and
chunks that arrive afterwards change nothing any more.
-/

namespace GestureLexicon

namespace Observer

def calm (o : Observer) : Observer :=
  { o with respond := fun _ _ => .proceed }

/-- Every event takes place, and the build ends with the progress told for the `k`-th time. -/
structure EndsAt (o : Observer) (k : Nat) : Prop where
  hears : o.hearsProgress = true
  respond : ∀ trace e, o.respond trace e =
    if e.isProgress ∧ trace.toList.countP BuildEvent.isProgress + 1 = k then .interrupt
    else .proceed

def endingAt (k : Nat) : Observer where
  respond trace e :=
    if e.isProgress ∧ trace.toList.countP BuildEvent.isProgress + 1 = k then .interrupt
    else .proceed

theorem endsAt_endingAt (k : Nat) : (endingAt k).EndsAt k :=
  ⟨rfl, fun _ _ => rfl⟩

theorem calm_passive (o : Observer) : o.calm.Passive :=
  fun _ _ => rfl

theorem hears_calm (o : Observer) : o.calm.hears = o.hears := by
  funext e
  cases e <;> rfl

end Observer

namespace WordResult

theorem countP_isProgress_events (results : List WordResult) :
    (results.flatMap events).countP BuildEvent.isProgress = 0 := by
  apply List.countP_eq_zero.mpr
  intro e member
  obtain ⟨⟨word, outcome⟩, _, among⟩ := List.mem_flatMap.mp member
  cases outcome <;> rcases List.mem_pair.mp among with rfl | rfl <;> exact Bool.false_ne_true

theorem countP_isProgress_calls (results : List WordResult) :
    (results.map call).countP BuildEvent.isProgress = 0 := by
  apply List.countP_eq_zero.mpr
  intro e member
  obtain ⟨⟨word, outcome⟩, _, rfl⟩ := List.mem_map.mp member
  cases outcome <;> exact Bool.false_ne_true

end WordResult

theorem countP_isProgress_chunkCalls (total done : Nat) (chunks : List (List WordResult)) :
    (chunkCalls total done chunks).countP BuildEvent.isProgress = chunks.length := by
  induction chunks generalizing done with
  | nil => rfl
  | cons chunk chunks ih =>
    rw [chunkCalls, List.countP_append, WordResult.countP_isProgress_calls,
      List.countP_cons_of_pos rfl, ih, List.length_cons, Nat.zero_add]

namespace Run
variable {o : Observer} {k total : Nat} {r : Run}

def ended (r : Run) : Run :=
  { r with interrupted := true }

theorem tell_calm (ends : o.EndsAt k) (r : Run) {e : BuildEvent} (quiet : e.isProgress = false) :
    r.tell o e = r.tell o.calm e := by
  have answer : o.respond r.trace e = .proceed := by
    rw [ends.respond, quiet]
    simp
  unfold tell
  rw [answer, o.hears_calm]
  rfl

theorem tellAll_calm (ends : o.EndsAt k) (r : Run) {events : List BuildEvent}
    (quiet : events.countP BuildEvent.isProgress = 0) :
    r.tellAll o events = r.tellAll o.calm events := by
  induction events generalizing r with
  | nil => rfl
  | cons e events ih =>
    have silent := List.countP_eq_zero.mp quiet
    have first : e.isProgress = false := by simpa using silent e List.mem_cons_self
    have rest : events.countP BuildEvent.isProgress = 0 :=
      List.countP_eq_zero.mpr fun other member => silent other (List.mem_cons_of_mem _ member)
    change (r.tell o e).tellAll o events = (r.tell o.calm e).tellAll o.calm events
    rw [tell_calm ends r first, ih _ rest]

/-- Progress is told as to an observer who ends nothing, and then the build goes on or has ended. -/
theorem tell_progress (ends : o.EndsAt k) (going : r.interrupted = false) (done total : Nat) :
    r.tell o (.progress done total) =
      if r.trace.toList.countP BuildEvent.isProgress + 1 = k then
        (r.tell o.calm (.progress done total)).ended
      else r.tell o.calm (.progress done total) := by
  have heard : o.hears (.progress done total) = true := ends.hears
  have answer : o.respond r.trace (.progress done total) =
      if r.trace.toList.countP BuildEvent.isProgress + 1 = k then .interrupt else .proceed := by
    rw [ends.respond]
    exact if_congr (and_iff_right rfl) rfl rfl
  rw [tell_eq o.calm_passive going, o.hears_calm]
  unfold tell
  by_cases last : r.trace.toList.countP BuildEvent.isProgress + 1 = k
  · rw [if_pos last] at answer ⊢
    simp [answer, going, heard, take_eq, ended]
  · rw [if_neg last] at answer ⊢
    simp [answer, going, heard, take_eq]

namespace Told
variable {chunks : List (List WordResult)}

theorem calm (told : r.Told o total chunks) : r.Told o.calm total chunks :=
  ⟨told.going, told.whole, told.done, told.outcomes, o.hears_calm ▸ told.calls⟩

theorem of_calm (told : r.Told o.calm total chunks) : r.Told o total chunks :=
  ⟨told.going, told.whole, told.done, told.outcomes, o.hears_calm ▸ told.calls⟩

theorem countP_isProgress (told : r.Told o total chunks) (hears : o.hearsProgress = true) :
    r.trace.toList.countP BuildEvent.isProgress = chunks.length := by
  have among (e : BuildEvent) : (e.isProgress && e.isCall) = e.isProgress := by
    cases e <;> rfl
  have heard (e : BuildEvent) : (e.isProgress && o.hears e) = e.isProgress := by
    cases e with
    | progress _ _ => exact hears
    | _ => rfl
  calc r.trace.toList.countP BuildEvent.isProgress
      = r.calls.countP BuildEvent.isProgress := by
        rw [Run.calls, List.countP_filter]
        simp only [among]
    _ = (chunkCalls total 0 chunks).countP BuildEvent.isProgress := by
        rw [told.calls, List.countP_filter]
        simp only [heard]
    _ = chunks.length := countP_isProgress_chunkCalls total 0 chunks

theorem emit_calm (told : r.Told o total chunks) (ends : o.EndsAt k) (results : List WordResult) :
    r.emit o total results =
      if chunks.length + 1 = k then (r.emit o.calm total results).ended
      else r.emit o.calm total results := by
  let events := results.flatMap WordResult.events
  let before : Run := { r.tellAll o.calm events with done := r.done + results.length }
  have quiet : events.countP BuildEvent.isProgress = 0 :=
    WordResult.countP_isProgress_events results
  have extended := tellAll_eq o.calm_passive told.going events
  have going : before.interrupted = false := by
    simp only [before, extended]
    exact told.going
  have count : before.trace.toList.countP BuildEvent.isProgress = chunks.length := by
    have kept : (events.filter o.calm.hears).countP BuildEvent.isProgress = 0 :=
      List.countP_eq_zero.mpr fun e member =>
        List.countP_eq_zero.mp quiet e (List.mem_filter.mp member).1
    rw [← told.countP_isProgress ends.hears]
    simp [before, extended, Run.extend, kept]
  have last := tell_progress ends going (r.done + results.length) total
  rw [count] at last
  rw [Run.emit, Run.emit, tellAll_calm ends r quiet]
  exact last

end Told

end Run

namespace Sequencer
variable {o : Observer} {k total count : Nat} {resultsOf : Nat → List WordResult}
variable {arrived : List Nat}

/-- A build that has still to make known some of its first `k` chunks. -/
structure Underway (o : Observer) (total : Nat) (resultsOf : Nat → List WordResult) (k count : Nat)
    (arrived : List Nat) (s : Sequencer) : Prop where
  ordered : s.Ordered o total resultsOf arrived
  early : s.next < k
  pending : (arrived ++ s.pending).Perm (List.range count)

/-- A build that has ended with its first `k` chunks, of which one was missing until the last
arrival. Whatever had arrived beyond them waits for good. -/
structure Halted (o : Observer) (total : Nat) (resultsOf : Nat → List WordResult) (k count : Nat)
    (arrived : List Nat) (s : Sequencer) : Prop where
  told : ∃ run : Run, s.run = run.ended ∧ run.Told o total ((List.range k).map resultsOf)
  known : (List.range k ++ s.ready.map Prod.fst).Perm arrived
  pending : (arrived ++ s.pending).Perm (List.range count)
  late : ∃ index earlier, arrived = index :: earlier ∧ ∃ missing < k, missing ∉ earlier

theorem Ordered.next_not_mem {s : Sequencer} (ordered : s.Ordered o total resultsOf arrived) :
    s.next ∉ arrived := by
  intro known
  rcases List.mem_append.mp (ordered.arrived.mem_iff.mpr known) with past | waits
  · exact absurd (List.mem_range.mp past) (lt_irrefl _)
  · obtain ⟨entry, member, same⟩ := List.mem_map.mp waits
    exact absurd same (ordered.later entry member).ne'

theorem release_ended {run : Run} (ended : run.interrupted = true) (next : Nat)
    (queue : List (Nat × List WordResult)) :
    release o total run next queue = (run, next, queue) := by
  cases queue with
  | nil => rfl
  | cons entry rest => exact if_pos (Bool.or_eq_true_iff.mpr (.inl ended))

/-- Releasing results either stops short of the `k`-th chunk or ends the build with it. -/
theorem release_ends (ends : o.EndsAt k) (pending : List Nat)
    {queue : List (Nat × List WordResult)} {run : Run} {next : Nat}
    (told : run.Told o total ((List.range next).map resultsOf))
    (queued : Queued resultsOf next arrived queue) (early : next < k) :
    let (run, next, ready) := release o total run next queue
    (Ordered o total resultsOf arrived ⟨run, next, ready, pending⟩ ∧ next < k) ∨
      (∃ before : Run, run = before.ended ∧ before.Told o total ((List.range k).map resultsOf)) ∧
        (List.range k ++ ready.map Prod.fst).Perm arrived := by
  induction queue generalizing run next with
  | nil =>
    exact .inl ⟨⟨told, .nil, List.forall_mem_nil _, List.forall_mem_nil _, queued.arrived⟩, early⟩
  | cons entry rest ih =>
    obtain ⟨index, results⟩ := entry
    by_cases here : index = next
    · subst here
      obtain ⟨rfl, behind⟩ := queued.pass
      have emitted := (told.calm.emit o.calm_passive (resultsOf index)).of_calm
      have course := told.emit_calm ends (resultsOf index)
      rw [← range_succ_map] at emitted
      rw [List.length_map, List.length_range] at course
      rw [release, told.going, if_neg (by simp), course]
      by_cases last : index + 1 = k
      · subst last
        rw [if_pos rfl, release_ended rfl]
        exact .inr ⟨⟨_, rfl, emitted⟩, behind.arrived⟩
      · rw [if_neg last]
        exact ih emitted behind (lt_of_le_of_ne early last)
    · rw [release, told.going, if_pos (by simpa using here)]
      exact .inl ⟨queued.ordered here pending told, early⟩

variable {process : List String → Except ChunkFault ChunkReport} {chunks : Array (List String)}

theorem Underway.receive {s : Sequencer} (underway : s.Underway o total resultsOf k count arrived)
    (ends : o.EndsAt k) {a : Arrival} (expected : a.index < count) (fresh : a.index ∉ arrived)
    (sound : (reportOf process (chunks.getD a.index []) a.failure).results = resultsOf a.index) :
    let t := s.receive o total process chunks a
    t.Underway o total resultsOf k count (a.index :: arrived) ∨
      t.Halted o total resultsOf k count (a.index :: arrived) := by
  obtain ⟨ordered, early, pending⟩ := underway
  have listed : a.index ∈ s.pending := by
    rcases List.mem_append.mp (pending.mem_iff.mpr (List.mem_range.mpr expected)) with known | left
    · exact absurd known fresh
    · exact left
  have left : (a.index :: arrived ++ s.pending.erase a.index).Perm (List.range count) :=
    (List.perm_middle.symm.trans ((List.perm_cons_erase listed).symm.append_left arrived)).trans
      pending
  have released := release_ends ends (s.pending.erase a.index)
    (ordered.told.overhear (reportOf process (chunks.getD a.index []) a.failure).log)
    (ordered.enqueue fresh) early
  rw [← sound] at released
  rw [Sequencer.receive, ordered.told.going, if_neg (by simp)]
  rcases released with ⟨further, short⟩ | ⟨told, known⟩
  · exact .inl ⟨further, short, left⟩
  · exact .inr ⟨told, known, left, _, _, rfl, s.next, early, ordered.next_not_mem⟩

theorem foldl_ended {s : Sequencer} (ended : s.run.interrupted = true) (arrivals : List Arrival) :
    arrivals.foldl (Sequencer.receive o total process chunks) s = s := by
  have kept (a : Arrival) : s.receive o total process chunks a = s := if_pos ended
  exact List.foldl_fixed' kept arrivals

theorem Halted.cancel_eq {s : Sequencer} (halted : s.Halted o total resultsOf k count arrived)
    (ends : o.EndsAt k) (chunks : Array (List String)) :
    ∃ run : Run, run.Told o total ((List.range k).map resultsOf) ∧
      s.cancel o chunks = { run with
        interrupted := true
        cancelled := some
          (s.pending.foldl (fun count index => count + (chunks.getD index []).length) 0) } := by
  obtain ⟨run, ended, told⟩ := halted.told
  have going : { s.run with interrupted := false } = run := by
    rw [ended]
    exact congrArg (fun b => { run with interrupted := b }) told.going.symm
  have silent : (BuildEvent.logged .cancellation).Silent :=
    ⟨rfl, fun _ same => Option.some.inj same ▸ rfl⟩
  refine ⟨run.tell o (.logged .cancellation), ?_, ?_⟩
  · rw [Run.tell_calm ends run rfl]
    exact (told.calm.tell o.calm_passive silent).of_calm
  · unfold Sequencer.cancel
    rw [going]

/-- Chunks that arrive one after another either leave the build under way or end it with one of
them. -/
theorem Underway.foldl {s : Sequencer} (underway : s.Underway o total resultsOf k count arrived)
    (ends : o.EndsAt k) {arrivals : List Arrival} (distinct : (arrivals.map Arrival.index).Nodup)
    (expected : ∀ a ∈ arrivals, a.index < count) (fresh : ∀ a ∈ arrivals, a.index ∉ arrived)
    (sound : ∀ a ∈ arrivals,
      (reportOf process (chunks.getD a.index []) a.failure).results = resultsOf a.index) :
    let t := arrivals.foldl (Sequencer.receive o total process chunks) s
    t.Underway o total resultsOf k count ((arrivals.map Arrival.index).reverse ++ arrived) ∨
      ∃ before after, arrivals = before ++ after ∧
        t.Halted o total resultsOf k count ((before.map Arrival.index).reverse ++ arrived) := by
  induction arrivals generalizing s arrived with
  | nil => exact .inl underway
  | cons a arrivals ih =>
    rw [List.map_cons, List.nodup_cons] at distinct
    have next := underway.receive ends (expected a List.mem_cons_self)
      (fresh a List.mem_cons_self) (sound a List.mem_cons_self)
    have shifted (first : List Arrival) :
        ((a :: first).map Arrival.index).reverse ++ arrived =
          (first.map Arrival.index).reverse ++ a.index :: arrived := by
      simp
    rw [List.foldl_cons]
    rcases next with further | halted
    · have course := ih further distinct.2
        (fun b member => expected b (List.mem_cons_of_mem _ member))
        (fresh_of_cons distinct.1 fresh)
        fun b member => sound b (List.mem_cons_of_mem _ member)
      rcases course with all | ⟨before, after, rfl, halted⟩
      · exact .inl (shifted arrivals ▸ all)
      · exact .inr ⟨a :: before, after, rfl, shifted before ▸ halted⟩
    · refine .inr ⟨[a], arrivals, rfl, ?_⟩
      obtain ⟨run, ended, _⟩ := halted.told
      rw [foldl_ended (ended ▸ rfl)]
      exact halted

/-- Chunks that all arrive end the build with one of them, if there are as many as it takes. -/
theorem process_ends {chunks : List (List String)} {arrivals : List Arrival} {run : Run}
    (ends : o.EndsAt k) (told : run.Told o total [])
    (complete : (arrivals.map Arrival.index).Perm (List.range chunks.length))
    (positive : 1 ≤ k) (reached : k ≤ chunks.length) :
    let resultsOf (index : Nat) : List WordResult :=
      (reportOf process (chunks.toArray.getD index []) (Arrival.failureOf arrivals index)).results
    ∃ before after s, arrivals = before ++ after ∧
      Halted o total resultsOf k chunks.length (before.map Arrival.index).reverse s ∧
      Sequencer.process o total process chunks arrivals run = s.cancel o chunks.toArray := by
  intro resultsOf
  have distinct : (arrivals.map Arrival.index).Nodup := complete.nodup_iff.mpr List.nodup_range
  have start : Underway o total resultsOf k chunks.length []
      ⟨run, 0, [], List.range chunks.length⟩ :=
    ⟨⟨told, .nil, List.forall_mem_nil _, List.forall_mem_nil _, .rfl⟩, positive, .rfl⟩
  have expected : ∀ a ∈ arrivals, a.index < chunks.length := fun a member =>
    List.mem_range.mp (complete.mem_iff.mp (List.mem_map_of_mem member))
  have sound : ∀ a ∈ arrivals,
      (reportOf process (chunks.toArray.getD a.index []) a.failure).results =
        resultsOf a.index := by
    intro a member
    simp only [resultsOf, Arrival.failureOf_eq distinct member]
  have course := start.foldl ends distinct expected (fun _ _ => List.not_mem_nil) sound
  simp only [List.append_nil] at course
  rcases course with underway | ⟨before, after, split, halted⟩
  · have all := underway.ordered.next_eq ((List.reverse_perm _).trans complete)
    have early := underway.early
    omega
  · refine ⟨before, after, _, split, halted, ?_⟩
    obtain ⟨final, ended, _⟩ := halted.told
    rw [Sequencer.process]
    exact if_pos (ended ▸ rfl)

end Sequencer

end GestureLexicon
