import GestureLexicon.Proofs.Course

/-!
Chunks in the order of the words, whatever the order of their arrival. The results that wait are
those of chunks past the next one, each once and the least first; together with the chunks already
made known they are the chunks that have arrived. Once all have arrived nothing can wait any longer,
since the next chunk would be missing.
-/

namespace GestureLexicon

namespace Sequencer
variable {o : Observer} {total : Nat} {queue : List (Nat × List WordResult)}

theorem enqueue_perm (index : Nat) (results : List WordResult)
    (queue : List (Nat × List WordResult)) :
    (enqueue index results queue).Perm ((index, results) :: queue) := by
  induction queue with
  | nil => exact .rfl
  | cons entry rest ih =>
    rw [enqueue]
    split
    · exact .rfl
    · exact (ih.cons entry).trans (.swap (index, results) entry rest)

theorem enqueue_sorted {index : Nat} (results : List WordResult)
    (sorted : queue.Pairwise fun a b => a.1 < b.1) (fresh : ∀ entry ∈ queue, entry.1 ≠ index) :
    (enqueue index results queue).Pairwise fun a b => a.1 < b.1 := by
  induction queue with
  | nil => exact List.pairwise_singleton _ _
  | cons entry rest ih =>
    obtain ⟨first, later⟩ := List.pairwise_cons.mp sorted
    have other := fresh entry List.mem_cons_self
    rw [enqueue]
    split
    · refine List.pairwise_cons.mpr ⟨fun waiting member => ?_, sorted⟩
      rcases List.mem_cons.mp member with rfl | behind
      · simp only
        omega
      · have := first waiting behind
        simp only
        omega
    · refine List.pairwise_cons.mpr ⟨fun waiting member => ?_,
        ih later fun waiting behind => fresh waiting (List.mem_cons_of_mem _ behind)⟩
      rcases List.mem_cons.mp ((enqueue_perm index results rest).mem_iff.mp member) with
        rfl | behind
      · simp only
        omega
      · exact first waiting behind

/-- What has arrived is made known up to the next chunk, and what lies past it waits in order. -/
structure Ordered (o : Observer) (total : Nat) (resultsOf : Nat → List WordResult)
    (arrived : List Nat) (s : Sequencer) : Prop where
  told : s.run.Told o total ((List.range s.next).map resultsOf)
  sorted : s.ready.Pairwise fun a b => a.1 < b.1
  right : ∀ entry ∈ s.ready, entry.2 = resultsOf entry.1
  later : ∀ entry ∈ s.ready, s.next < entry.1
  arrived : (List.range s.next ++ s.ready.map Prod.fst).Perm arrived

variable {resultsOf : Nat → List WordResult} {arrived : List Nat}

/-- Results that wait from the next chunk on, before those that can go are made known. -/
structure Queued (resultsOf : Nat → List WordResult) (next : Nat) (arrived : List Nat)
    (queue : List (Nat × List WordResult)) : Prop where
  sorted : queue.Pairwise fun a b => a.1 < b.1
  right : ∀ entry ∈ queue, entry.2 = resultsOf entry.1
  reached : ∀ entry ∈ queue, next ≤ entry.1
  arrived : (List.range next ++ queue.map Prod.fst).Perm arrived

section
variable {index next : Nat} {results : List WordResult} {rest : List (Nat × List WordResult)}

theorem Queued.pass (queued : Queued resultsOf index arrived ((index, results) :: rest)) :
    results = resultsOf index ∧ Queued resultsOf (index + 1) arrived rest := by
  obtain ⟨first, behind⟩ := List.pairwise_cons.mp queued.sorted
  have passed : List.range (index + 1) ++ rest.map Prod.fst =
      List.range index ++ index :: rest.map Prod.fst := by
    rw [List.range_succ, List.append_assoc]
    rfl
  exact ⟨queued.right _ List.mem_cons_self, behind,
    fun entry member => queued.right entry (List.mem_cons_of_mem _ member),
    fun entry member => first entry member, passed ▸ queued.arrived⟩

theorem Queued.ordered (queued : Queued resultsOf next arrived ((index, results) :: rest))
    (missing : index ≠ next) (pending : List Nat) {run : Run}
    (told : run.Told o total ((List.range next).map resultsOf)) :
    Ordered o total resultsOf arrived ⟨run, next, (index, results) :: rest, pending⟩ := by
  have gap : next < index :=
    lt_of_le_of_ne (queued.reached _ List.mem_cons_self) (Ne.symm missing)
  refine ⟨told, queued.sorted, queued.right, fun entry member => ?_, queued.arrived⟩
  rcases List.mem_cons.mp member with rfl | after
  · exact gap
  · exact gap.trans ((List.pairwise_cons.mp queued.sorted).1 entry after)

theorem range_succ_map (resultsOf : Nat → List WordResult) (index : Nat) :
    (List.range (index + 1)).map resultsOf =
      (List.range index).map resultsOf ++ [resultsOf index] := by
  rw [List.range_succ, List.map_append]
  rfl

end

/-- Releasing results makes known those of the next chunks and leaves those past a gap. -/
theorem ordered_release (passive : o.Passive) (pending : List Nat) {run : Run} {next : Nat}
    (told : run.Told o total ((List.range next).map resultsOf))
    (queued : Queued resultsOf next arrived queue) :
    let (run, next, ready) := release o total run next queue
    Ordered o total resultsOf arrived ⟨run, next, ready, pending⟩ := by
  induction queue generalizing run next with
  | nil => exact ⟨told, .nil, List.forall_mem_nil _, List.forall_mem_nil _, queued.arrived⟩
  | cons entry rest ih =>
    obtain ⟨index, results⟩ := entry
    by_cases here : index = next
    · subst here
      obtain ⟨rfl, behind⟩ := queued.pass
      have emitted := told.emit passive (resultsOf index)
      rw [← range_succ_map] at emitted
      rw [release, told.going, if_neg (by simp)]
      exact ih emitted behind
    · rw [release, told.going, if_pos (by simpa using here)]
      exact queued.ordered here pending told

variable {process : List String → Except ChunkFault ChunkReport} {chunks : Array (List String)}

theorem Ordered.enqueue {s : Sequencer} (ordered : s.Ordered o total resultsOf arrived)
    {index : Nat} (fresh : index ∉ arrived) :
    Queued resultsOf s.next (index :: arrived)
      (enqueue index (resultsOf index) s.ready) := by
  have unknown : index ∉ List.range s.next ++ s.ready.map Prod.fst :=
    fun known => fresh (ordered.arrived.mem_iff.mp known)
  rw [List.mem_append, not_or, List.mem_range] at unknown
  have waiting := enqueue_perm index (resultsOf index) s.ready
  refine ⟨enqueue_sorted (resultsOf index) ordered.sorted ?_, fun entry member => ?_,
    fun entry member => ?_, ?_⟩
  · rintro entry member same
    exact unknown.2 (same ▸ List.mem_map_of_mem member)
  · rcases List.mem_cons.mp (waiting.mem_iff.mp member) with rfl | before
    · rfl
    · exact ordered.right entry before
  · rcases List.mem_cons.mp (waiting.mem_iff.mp member) with rfl | before
    · exact not_lt.mp unknown.1
    · exact (ordered.later entry before).le
  · exact ((waiting.map Prod.fst).append_left _).trans
      (List.perm_middle.trans (ordered.arrived.cons index))

/-- One more chunk that arrives. -/
theorem Ordered.receive {s : Sequencer} (ordered : s.Ordered o total resultsOf arrived)
    (passive : o.Passive) {a : Arrival} (fresh : a.index ∉ arrived)
    (sound : (reportOf process (chunks.getD a.index []) a.failure).results = resultsOf a.index) :
    (s.receive o total process chunks a).Ordered o total resultsOf (a.index :: arrived) := by
  have released := ordered_release passive (s.pending.erase a.index)
    (ordered.told.overhear (reportOf process (chunks.getD a.index []) a.failure).log)
    (ordered.enqueue fresh)
  rw [Sequencer.receive, ordered.told.going, if_neg (by simp)]
  simpa only [sound] using released

theorem fresh_of_cons {a : Arrival} {arrivals : List Arrival}
    (other : a.index ∉ arrivals.map Arrival.index)
    (fresh : ∀ b ∈ a :: arrivals, b.index ∉ arrived) :
    ∀ b ∈ arrivals, b.index ∉ a.index :: arrived := by
  intro b member
  rw [List.mem_cons, not_or]
  refine ⟨fun same => other (same ▸ List.mem_map_of_mem member), ?_⟩
  exact fresh b (List.mem_cons_of_mem _ member)

theorem Ordered.foldl {s : Sequencer} (ordered : s.Ordered o total resultsOf arrived)
    (passive : o.Passive) {arrivals : List Arrival}
    (distinct : (arrivals.map Arrival.index).Nodup)
    (fresh : ∀ a ∈ arrivals, a.index ∉ arrived)
    (sound : ∀ a ∈ arrivals,
      (reportOf process (chunks.getD a.index []) a.failure).results = resultsOf a.index) :
    ∃ all, (arrivals.foldl (Sequencer.receive o total process chunks) s).Ordered o total
        resultsOf all ∧ all.Perm (arrivals.map Arrival.index ++ arrived) := by
  induction arrivals generalizing s arrived with
  | nil => exact ⟨arrived, ordered, .rfl⟩
  | cons a arrivals ih =>
    rw [List.map_cons, List.nodup_cons] at distinct
    have next := ordered.receive passive (fresh a List.mem_cons_self)
      (sound a List.mem_cons_self)
    obtain ⟨all, final, known⟩ := ih next distinct.2 (fresh_of_cons distinct.1 fresh)
      fun b member => sound b (List.mem_cons_of_mem _ member)
    exact ⟨all, final, known.trans List.perm_middle⟩

theorem Ordered.next_eq {s : Sequencer} {count : Nat}
    (ordered : s.Ordered o total resultsOf arrived) (complete : arrived.Perm (List.range count)) :
    s.next = count := by
  have all := ordered.arrived.trans complete
  have empty : s.ready = [] := by
    cases waiting : s.ready with
    | nil => rfl
    | cons entry rest =>
      have later := ordered.later entry (waiting ▸ List.mem_cons_self)
      have known : entry.1 ∈ List.range s.next ++ s.ready.map Prod.fst := by
        rw [waiting]
        simp
      have within := List.mem_range.mp (all.mem_iff.mp known)
      -- The next chunk is below this one, so it has arrived, but it is nowhere.
      have missing : s.next ∈ List.range s.next ++ s.ready.map Prod.fst :=
        all.mem_iff.mpr (List.mem_range.mpr (later.trans within))
      rcases List.mem_append.mp missing with past | waits
      · exact absurd (List.mem_range.mp past) (lt_irrefl _)
      · obtain ⟨other, member, same⟩ := List.mem_map.mp waits
        exact absurd same (ordered.later other member).ne'
  simpa [empty] using all.length_eq

theorem Ordered.told_all {s : Sequencer} {count : Nat}
    (ordered : s.Ordered o total resultsOf arrived) (complete : arrived.Perm (List.range count)) :
    s.run.Told o total ((List.range count).map resultsOf) :=
  ordered.next_eq complete ▸ ordered.told

end Sequencer

def Arrival.failureOf (arrivals : List Arrival) (index : Nat) : Option String :=
  (arrivals.find? fun a => a.index == index).bind Arrival.failure

theorem Arrival.failureOf_eq {arrivals : List Arrival}
    (distinct : (arrivals.map Arrival.index).Nodup) {a : Arrival} (member : a ∈ arrivals) :
    failureOf arrivals a.index = a.failure := by
  induction arrivals with
  | nil => exact nomatch member
  | cons b arrivals ih =>
    rw [List.map_cons, List.nodup_cons] at distinct
    rw [failureOf]
    rcases List.mem_cons.mp member with rfl | later
    · rw [List.find?_cons_of_pos (by simp)]
      rfl
    · have other : b.index ≠ a.index :=
        fun same => distinct.1 (same ▸ List.mem_map_of_mem later)
      rw [List.find?_cons_of_neg (by simpa using other)]
      exact ih distinct.2 later

/-- Every chunk arrives exactly once. -/
def Schedule.Complete (schedule : Schedule) : Prop :=
  ∀ count, ((schedule count).map Arrival.index).Perm (List.range count)

def Schedule.backwards : Schedule := fun count => (List.range count).reverse.map (⟨·, none⟩)

theorem Schedule.complete_backwards : backwards.Complete := by
  intro count
  have indices : (backwards count).map Arrival.index = (List.range count).reverse := by
    simp [backwards, Function.comp_def]
  rw [indices]
  exact List.reverse_perm _

def arrivedResults (process : List String → Except ChunkFault ChunkReport)
    (arrivals : List Arrival) (chunks : List (List String)) : List (List WordResult) :=
  (List.range chunks.length).map fun index =>
    (Sequencer.reportOf process (chunks.toArray.getD index [])
      (Arrival.failureOf arrivals index)).results

theorem Sequencer.told_process {o : Observer} {total : Nat}
    (process : List String → Except ChunkFault ChunkReport) (chunks : List (List String))
    {arrivals : List Arrival} {run : Run} (passive : o.Passive) (told : run.Told o total [])
    (complete : (arrivals.map Arrival.index).Perm (List.range chunks.length)) :
    (Sequencer.process o total process chunks arrivals run).Told o total
      (arrivedResults process arrivals chunks) := by
  let resultsOf (index : Nat) : List WordResult :=
    (reportOf process (chunks.toArray.getD index []) (Arrival.failureOf arrivals index)).results
  have distinct : (arrivals.map Arrival.index).Nodup := complete.nodup_iff.mpr List.nodup_range
  have start : Ordered o total resultsOf [] ⟨run, 0, [], List.range chunks.length⟩ :=
    ⟨told, .nil, List.forall_mem_nil _, List.forall_mem_nil _, .rfl⟩
  have sound : ∀ a ∈ arrivals,
      (reportOf process (chunks.toArray.getD a.index []) a.failure).results =
        resultsOf a.index := by
    intro a member
    simp only [resultsOf, Arrival.failureOf_eq distinct member]
  obtain ⟨all, final, known⟩ :=
    start.foldl passive distinct (fun _ _ => List.not_mem_nil) sound
  rw [List.append_nil] at known
  have finished := final.told_all (known.trans complete)
  rw [Sequencer.process]
  simp only [finished.going, Bool.false_eq_true, ↓reduceIte]
  exact finished

end GestureLexicon
