import GestureLexicon.Proofs.Written

/-!
Settings that are assigned to after their check. An assignment takes any value, and what a value
breaks shows only in the build: where chunks cannot be processed, one worker ends the build, but
several report every word as failed and return. Main statement: `builds_alike_iff`.
-/

namespace GestureLexicon

theorem SettingsSection.not_reserved (part : SettingsSection) {name : String}
    (known : name ∈ part.fieldNames) : name.startsWith "_" = false := by
  cases part <;> fin_cases known <;> decide +kernel

theorem SettingsSection.not_derived (part : SettingsSection) {name : String}
    (known : name ∈ part.fieldNames) : part.derivedNames.contains name = false := by
  cases part <;> fin_cases known <;> rfl

/-- No chunk fails on its way. -/
def Schedule.Sound (schedule : Schedule) : Prop :=
  ∀ count, ∀ a ∈ schedule count, a.failure = none

theorem Schedule.Sound.failureOf {schedule : Schedule} (sound : schedule.Sound)
    (count index : Nat) : Arrival.failureOf (schedule count) index = none := by
  rw [Arrival.failureOf]
  cases found : (schedule count).find? fun a => a.index == index with
  | none => rfl
  | some a => exact sound count a (List.mem_of_find?_eq_some found)

theorem Schedule.sound_backwards : backwards.Sound := by
  intro count a member
  obtain ⟨index, _, rfl⟩ := List.mem_map.mp member
  rfl

structure Assignment where
  part : SettingsSection
  name : String
  value : Value

namespace Draft

/-- Assignments made one after another, if each of them is accepted. -/
def assignAll (d : Draft) (assignments : List Assignment) : Except AssignError Draft :=
  assignments.foldlM (fun d a => d.assign a.part.name a.name a.value) d

theorem assign_part (d : Draft) (part : SettingsSection) (name : String) (v : Value) :
    d.assign part.name name v = ((d.part part).assign part name v).map (d.withPart part) := by
  cases part <;> rfl

def withAssigned (s : Settings) (part : SettingsSection) (name : String) (v : Value) : Draft :=
  (ofSettings s).withPart part
    { ((ofSettings s).part part).withField name v with assigned := [name] }

theorem assign_ofSettings (s : Settings) (part : SettingsSection) {name : String}
    (known : name ∈ part.fieldNames) (v : Value) :
    (ofSettings s).assign part.name name v = .ok (withAssigned s part name v) := by
  have free : ((ofSettings s).part part).checkAssigns name = .ok () := by
    cases part <;> rfl
  have whole : ((ofSettings s).part part).record = none ∧
      ((ofSettings s).part part).assigned = [] := by
    cases part <;> exact ⟨rfl, rfl⟩
  have listed : part.fieldNames.contains name = true := List.contains_iff_mem.mpr known
  rw [assign_part, SectionDraft.assign, free, part.not_derived known, part.not_reserved known,
    listed, SectionDraft.assignField, whole.1, whole.2]
  rfl

theorem assignAll_singleton (s : Settings) (part : SettingsSection) {name : String}
    (known : name ∈ part.fieldNames) (v : Value) :
    (ofSettings s).assignAll [⟨part, name, v⟩] = .ok (withAssigned s part name v) := by
  rw [assignAll, List.foldlM_cons, assign_ofSettings s part known]
  rfl

theorem part_withPart (d : Draft) {part other : SettingsSection} (apart : part ≠ other)
    (draft : SectionDraft) : (d.withPart part draft).part other = d.part other := by
  cases part <;> cases other <;> simp [withPart, Draft.part] at apart ⊢

theorem part_assign {d changed : Draft} {part other : SettingsSection} {name : String} {v : Value}
    (apart : part ≠ other) (assigned : d.assign part.name name v = .ok changed) :
    changed.part other = d.part other := by
  rw [assign_part] at assigned
  cases assignment : (d.part part).assign part name v with
  | error e =>
    rw [assignment] at assigned
    exact nomatch assigned
  | ok draft =>
    rw [assignment] at assigned
    obtain rfl := Except.ok.inj assigned
    exact d.part_withPart apart draft

theorem dump_withAssigned [Text.Halves] (s : Settings) (part : SettingsSection) {name : String}
    (known : name ∈ part.fieldNames) (n : Int) :
    let d := withAssigned s part name (.whole n)
    d.dump = .ok [("resample", .record (d.part .resample).fields),
      ("features", .record (d.part .features).fields)] := by
  intro d
  have there : Value.field? ((ofSettings s).part part).fields name ≠ none := by
    cases part <;> fin_cases known <;> exact Option.some_ne_none _
  have fields : (d.part part).fields = ((ofSettings s).part part).fields.map fun field =>
      (field.1, if field.1 = name then .whole n else field.2) := by
    have here : d.part part = { ((ofSettings s).part part).withField name (.whole n) with
        assigned := [name] } := by
      cases part <;> rfl
    rw [here]
    exact if_neg (by simpa using there)
  have passes (other : SettingsSection) : d.passedSection other = .ok (d.part other).fields := by
    refine d.passedSection_eq other fun field member => ?_
    by_cases same : other = part
    · subst same
      rw [fields] at member
      obtain ⟨⟨label, old⟩, among, rfl⟩ := List.mem_map.mp member
      have listed := mem_fieldNames s other among
      refine ⟨listed, ?_⟩
      by_cases assigned : label = name
      · simp only [if_pos assigned]
        rfl
      · simp only [if_neg assigned]
        exact passedField_ofSettings s other among
    · have untouched : d.part other = (ofSettings s).part other :=
        part_assign (Ne.symm same) (assign_ofSettings s part known (.whole n))
      rw [untouched] at member
      exact ⟨mem_fieldNames s other member, passedField_ofSettings s other member⟩
  rw [dump, passes, passes, passes, passes]
  rfl

theorem part_assignAll {d changed : Draft} {assignments : List Assignment}
    {other : SettingsSection} (apart : ∀ a ∈ assignments, a.part ≠ other)
    (assigned : d.assignAll assignments = .ok changed) : changed.part other = d.part other := by
  induction assignments generalizing d with
  | nil =>
    obtain rfl := Except.ok.inj assigned
    rfl
  | cons a assignments ih =>
    rw [assignAll, List.foldlM_cons] at assigned
    obtain ⟨next, first, rest⟩ := bind_eq_ok assigned
    rw [ih (fun b member => apart b (List.mem_cons_of_mem _ member)) rest]
    exact part_assign (apart a List.mem_cons_self) first

end Draft

theorem chunkExtractor_coefficients [Text.Halves] (s : Settings) (layout : KeyLayout Coordinate)
    {count : Nat} (positive : 1 ≤ count) {sections : List (String × Value)}
    (handed : (Draft.withAssigned s .features "coefficient_count" (.whole count)).dump =
      .ok sections) :
    (∃ e, chunkExtractor layout.toRecord sections = .ok e) ↔ count ≤ s.resample.sampleCount := by
  let features : FeatureSettings := { s.features with coefficientCount := count, positive }
  have known : "coefficient_count" ∈ SettingsSection.features.fieldNames := List.mem_cons_self
  obtain rfl : [("resample", .record s.resample.dump), ("features", .record features.dump)] =
      sections := Except.ok.inj
        ((Draft.dump_withAssigned s .features known count).symm.trans handed)
  rw [chunkExtractor_dump, Extractor.ofSettings]
  by_cases fits : count ≤ s.resample.sampleCount
  · rw [dif_pos fits]
    exact iff_of_true ⟨_, rfl⟩ fits
  · rw [dif_neg fits]
    refine iff_of_false ?_ fits
    rintro ⟨_, found⟩
    cases found

namespace Build
variable [Text.Halves] {s : Settings} {d : Draft} {layout : KeyLayout Coordinate}
variable {words : List String} {chunks : List (List String)} {sections : List (String × Value)}
variable {asked workers : Value} {o : Observer} {schedule : Schedule}

theorem plan_eq (same : d.part .processing = (Draft.ofSettings s).part .processing)
    (words : List String) :
    plan d words = (d.dump.mapError .passing).map (blocks s.processing.chunkSize words, ·) := by
  have size : d.get .processing "chunk_size" = .ok (.whole s.processing.chunkSize) := by
    unfold Draft.get
    rw [same]
    rfl
  rw [plan, size]
  change (chunked (.whole s.processing.chunkSize) words >>= _) = _
  rw [chunked_whole s.processing.positive]
  cases d.dump <;> rfl

theorem build_unplanned {fault : BuildFault} (passive : o.Passive)
    (given : workersOf d asked = .ok workers) (failed : plan d words = .error fault) :
    (build d layout words asked o schedule).fault = some fault := by
  have started := told_opening passive layout words workers
  simp only [build, given, started.going, Bool.false_eq_true, ↓reduceIte, failed]

theorem fault_alone (schedule : Schedule) (passive : o.Passive)
    (planned : plan d words = .ok (chunks, sections)) (nonempty : chunks ≠ []) :
    (build d layout words (workersValue (some 1)) o schedule).fault = none ↔
      ∃ e, chunkExtractor layout.toRecord sections = .ok e := by
  have alone : (isOne (workersValue (some 1)) || chunks.length ≤ 1) = true :=
    (alone_iff _ _).mpr (.inl rfl)
  cases found : chunkExtractor layout.toRecord sections with
  | ok e =>
    obtain ⟨final, returned, _⟩ :=
      build_alone e schedule passive (workersOf_asked d 1) planned found alone
    rw [returned]
    exact ⟨fun _ => ⟨e, rfl⟩, fun _ => rfl⟩
  | error fault =>
    have started := told_opening passive layout words (workersValue (some 1))
    obtain ⟨chunk, rest, rfl⟩ := List.exists_cons_of_ne_nil nonempty
    rw [build_planned (workersOf_asked d 1) planned started.going]
    simp only [alone, ↓reduceIte, inline, processChunk_error found, finish]
    simp

theorem fault_apart {n : Nat} (layout : KeyLayout Coordinate) (passive : o.Passive)
    (complete : schedule.Complete) (planned : plan d words = .ok (chunks, sections))
    (parts : 1 < chunks.length) (several : 2 ≤ n) :
    (build d layout words (workersValue (.some n)) o schedule).fault = none ↔ n ≤ mostWorkers := by
  have apart := several_apart parts several
  by_cases counted : n ≤ mostWorkers
  · obtain ⟨final, returned, _⟩ := build_apart layout passive complete (workersOf_asked d n)
      planned apart (checkWorkers_ok several counted)
    rw [returned]
    exact ⟨fun _ => counted, fun _ => rfl⟩
  · have refused : checkWorkers (workersValue (.some n)) = .error .tooManyWorkers := by
      rw [checkWorkers_workersValue (positive_of_several several),
        if_pos ⟨n, rfl, not_le.mp counted⟩]
    obtain ⟨run, failed, _⟩ :=
      build_unstaffed schedule (told_opening passive layout words (workersValue (.some n)))
        (workersOf_asked d n) planned apart refused
    rw [failed]
    exact iff_of_false (Option.some_ne_none _) counted

/-- Where chunks can be processed and none fails on its way, several workers do what one does. -/
theorem same_apart {n : Nat} {e : Extractor Coordinate} (passive : o.Passive)
    (complete : schedule.Complete) (sound : schedule.Sound)
    (planned : plan d words = .ok (chunks, sections)) (parts : 1 < chunks.length)
    (several : 2 ≤ n) (counted : n ≤ mostWorkers)
    (found : chunkExtractor layout.toRecord sections = .ok e) :
    let alone := build d layout words (workersValue (some 1)) o schedule
    let apart := build d layout words (workersValue (some n)) o schedule
    alone.run.calls = apart.run.calls ∧ alone.run.statistics = apart.run.statistics := by
  intro alone apart
  obtain ⟨first, returned, told⟩ := build_alone e schedule passive (workersOf_asked d 1)
    planned found ((alone_iff (some 1) chunks.length).mpr (.inl rfl))
  obtain ⟨second, returnedApart, toldApart⟩ := build_apart layout passive complete
    (workersOf_asked d n) planned (several_apart parts several) (checkWorkers_ok several counted)
  have unfailed : Arrival.failureOf (schedule chunks.length) = fun _ => none :=
    funext fun index => sound.failureOf _ index
  have same : arrivedResults (fun chunk => processChunk chunk layout.toRecord sections)
      (schedule chunks.length) chunks = chunks.map (List.map (e.resultOf none)) := by
    rw [e.results_arrived (processChunk_ok found), unfailed]
    apply List.ext_getElem <;> simp
  rw [same] at toldApart
  have one : alone.run = first := congrArg BuildReport.run returned
  have many : apart.run = second := congrArg BuildReport.run returnedApart
  rw [one, many, told.calls, toldApart.calls, told.statistics, toldApart.statistics]
  exact ⟨rfl, rfl⟩

end Build

open Build

/-- Builds with one outcome: both fail, or both return after the same calls with the same counts. -/
def BuildReport.Alike (first second : BuildReport) : Prop :=
  (first.fault ≠ none ∧ second.fault ≠ none) ∨
    (first.fault = none ∧ second.fault = none ∧ first.run.calls = second.run.calls ∧
      first.run.statistics = second.run.statistics)

/-- With one worker and with several a build has one outcome exactly if its chunks can be processed
and so many workers can be had, or neither. -/
theorem builds_alike_iff [Text.Halves] (s : Settings) (assignments : List Assignment) (d : Draft)
    (layout : KeyLayout Coordinate) (words : List String) (n : Nat) (o : Observer)
    (schedule : Schedule)
    (fields : ∀ a ∈ assignments, a.part = .features ∨ a.part = .resample)
    (assigned : (Draft.ofSettings s).assignAll assignments = .ok d)
    (parts : 1 < (blocks s.processing.chunkSize words).length) (several : 2 ≤ n)
    (passive : o.Passive) (complete : schedule.Complete) (sound : schedule.Sound) :
    let alone := build d layout words (workersValue (some 1)) o schedule
    let apart := build d layout words (workersValue (some n)) o schedule
    alone.Alike apart ↔ ∀ sections, d.dump = .ok sections →
      ((∃ e, chunkExtractor layout.toRecord sections = .ok e) ↔ n ≤ mostWorkers) := by
  intro alone apart
  have elsewhere : ∀ a ∈ assignments, a.part ≠ .processing := by
    intro a member same
    rcases fields a member with part | part <;> exact nomatch part.symm.trans same
  have planned := plan_eq (Draft.part_assignAll elsewhere assigned) words
  cases handed : d.dump with
  | error e =>
    rw [handed] at planned
    have failed : alone.fault = _ := build_unplanned passive rfl planned
    have failedApart : apart.fault = _ := build_unplanned passive rfl planned
    refine iff_of_true (.inl ?_) fun _ absent => nomatch absent
    rw [failed, failedApart]
    exact ⟨Option.some_ne_none _, Option.some_ne_none _⟩
  | ok sections =>
    rw [handed] at planned
    have processed : alone.fault = none ↔ ∃ e, chunkExtractor layout.toRecord sections = .ok e :=
      fault_alone schedule passive planned (List.ne_nil_of_length_pos (Nat.zero_lt_of_lt parts))
    have staffed : apart.fault = none ↔ n ≤ mostWorkers :=
      fault_apart layout passive complete planned parts several
    have only : (∀ other, (.ok sections : Except PassingError _) = .ok other →
        ((∃ e, chunkExtractor layout.toRecord other = .ok e) ↔ n ≤ mostWorkers)) ↔
        (alone.fault = none ↔ apart.fault = none) := by
      rw [processed, staffed]
      exact ⟨fun each => each sections rfl, fun each other same => Except.ok.inj same ▸ each⟩
    rw [only]
    constructor
    · rintro (⟨failed, failedApart⟩ | ⟨returned, returnedApart, _⟩)
      · exact iff_of_false failed failedApart
      · exact iff_of_true returned returnedApart
    · intro same
      by_cases returned : alone.fault = none
      · obtain ⟨e, found⟩ := processed.mp returned
        have counted := staffed.mp (same.mp returned)
        exact .inr ⟨returned, same.mp returned,
          same_apart passive complete sound planned parts several counted found⟩
      · exact .inl ⟨returned, mt same.mpr returned⟩

/-- Fewer coefficients are assigned: two workers do with two words what one does. -/
theorem builds_alike_fewer_coefficients :
    let s : Settings :=
      ⟨.default, .default, ⟨some ⟨1, by decide⟩, 1, by decide⟩, .default, by decide⟩
    let assignments : List Assignment := [⟨.features, "coefficient_count", .whole 5⟩]
    let layout := (KeyLayout.ofRows [⟨["a", "b", "c"], 0⟩] 10 10).map Coordinate.whole
    let words := ["ab", "!"]
    ∃ d, (Draft.ofSettings s).assignAll assignments = .ok d ∧
      1 < (blocks s.processing.chunkSize words).length ∧
      (@build .absent d layout words (workersValue (some 1)) {} .backwards).Alike
        (@build .absent d layout words (workersValue (some 2)) {} .backwards) := by
  intro s assignments layout words
  let _ : Text.Halves := .absent
  have assigned : (Draft.ofSettings s).assignAll assignments = _ :=
    Draft.assignAll_singleton s .features (by decide) (.whole 5)
  have parts : 1 < (blocks 1 words).length := by simp [words, blocks]
  have alike := builds_alike_iff s assignments _ layout words 2 {} .backwards
    (by simp [assignments]) assigned parts (by decide) (fun _ _ => rfl)
    Schedule.complete_backwards Schedule.sound_backwards
  refine ⟨_, assigned, parts, alike.mpr fun sections handed => iff_of_true ?_ (by decide)⟩
  exact (chunkExtractor_coefficients s layout (by decide) handed).mpr (by decide)

/-- More coefficients are assigned than a path has samples: one worker fails, and two return. -/
theorem builds_not_alike_too_many_coefficients :
    let s : Settings :=
      ⟨.default, .default, ⟨some ⟨1, by decide⟩, 1, by decide⟩, .default, by decide⟩
    let assignments : List Assignment := [⟨.features, "coefficient_count", .whole 100⟩]
    let layout := (KeyLayout.ofRows [⟨["a", "b", "c"], 0⟩] 10 10).map Coordinate.whole
    let words := ["ab", "ba"]
    ∃ d, (Draft.ofSettings s).assignAll assignments = .ok d ∧
      1 < (blocks s.processing.chunkSize words).length ∧
      (@build .absent d layout words (workersValue (some 1)) {} .backwards).fault ≠ none ∧
      (@build .absent d layout words (workersValue (some 2)) {} .backwards).fault = none ∧
      ¬(@build .absent d layout words (workersValue (some 1)) {} .backwards).Alike
        (@build .absent d layout words (workersValue (some 2)) {} .backwards) := by
  intro s assignments layout words
  let _ : Text.Halves := .absent
  let d := Draft.withAssigned s .features "coefficient_count" (.whole 100)
  have assigned : (Draft.ofSettings s).assignAll assignments = .ok d :=
    Draft.assignAll_singleton s .features (by decide) (.whole 100)
  have parts : 1 < (blocks 1 words).length := by simp [words, blocks]
  obtain ⟨sections, handed⟩ : ∃ sections, d.dump = .ok sections :=
    ⟨_, Draft.dump_withAssigned s .features (by decide) 100⟩
  have planned : plan d words = .ok (blocks 1 words, sections) := by
    rw [@plan_eq _ s d rfl, handed]
    rfl
  have passive : ({} : Observer).Passive := fun _ _ => rfl
  have failed := mt (fault_alone .backwards passive planned
    (List.ne_nil_of_length_pos (Nat.zero_lt_of_lt parts))).mp
    (mt (chunkExtractor_coefficients s layout (by decide) handed).mp (by decide))
  have returned := (fault_apart layout passive Schedule.complete_backwards planned parts
    le_rfl).mpr (by decide)
  refine ⟨d, assigned, parts, failed, returned, ?_⟩
  rintro (⟨_, failedApart⟩ | ⟨returnedAlone, _⟩)
  · exact failedApart returned
  · exact failed returnedAlone

end GestureLexicon
