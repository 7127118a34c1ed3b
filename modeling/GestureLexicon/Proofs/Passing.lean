import GestureLexicon.Build
import GestureLexicon.Proofs.Traversal
import Mathlib

/-!
Layout and settings as they are handed on to where words are processed. Both are taken apart into
records on the way and checked again at its end, and what comes out is what was handed on, so every
chunk is processed by one and the same extractor.
-/

namespace GestureLexicon
variable {κ : Type}

namespace Positions

theorem ext_entries {p q : Positions κ} (same : p.entries = q.entries) : p = q := by
  cases p
  cases q
  simpa only [Positions.mk.injEq] using same

theorem entries_foldl_insert (added : List (String × Point κ)) (p : Positions κ)
    (distinct : ((p.entries ++ added).map Prod.fst).Nodup) :
    (added.foldl (fun p entry => p.insert entry.1 entry.2) p).entries = p.entries ++ added := by
  induction added generalizing p with
  | nil => exact (List.append_nil _).symm
  | cons entry added ih =>
    have absent : entry.1 ∉ p.keys := by
      intro known
      rw [List.map_append, List.map_cons, List.nodup_append] at distinct
      exact distinct.2.2 entry.1 known entry.1 List.mem_cons_self rfl
    have inserted : (p.insert entry.1 entry.2).entries = p.entries ++ [entry] := by
      rw [insert, dif_neg absent]
    rw [List.foldl_cons, ih, inserted, List.append_assoc, List.singleton_append]
    rwa [inserted, List.append_assoc, List.singleton_append]

theorem ofList_entries (p : Positions κ) : ofList p.entries = p :=
  ext_entries ((entries_foldl_insert p.entries empty p.distinct).trans (List.nil_append _))

end Positions

/-- A layout is read back from its record. -/
theorem KeyLayout.ofRecord_toRecord (l : KeyLayout κ) : ofRecord l.toRecord = .ok l := by
  have read (entries : List (String × Point κ)) :
      (entries.map fun entry => (entry.1, (⟨some entry.2.x, some entry.2.y⟩ : PointRecord κ))).mapM
        (fun entry => do
          return (entry.1, (⟨← required .x entry.2.x, ← required .y entry.2.y⟩ : Point κ))) =
        (.ok entries : Except MissingField _) := by
    induction entries with
    | nil => rfl
    | cons entry entries ih =>
      rw [List.map_cons, List.mapM_cons, ih]
      rfl
  have reading : ofRecord l.toRecord = (do
      let entries ← (l.positions.entries.map fun entry =>
        (entry.1, (⟨some entry.2.x, some entry.2.y⟩ : PointRecord κ))).mapM (fun entry => do
          return (entry.1, (⟨← required .x entry.2.x, ← required .y entry.2.y⟩ : Point κ)))
      return ⟨.ofList entries, l.keyWidth, l.keyHeight⟩ : Except MissingField (KeyLayout κ)) := rfl
  rw [reading, read]
  exact congrArg (fun positions => Except.ok (⟨positions, l.keyWidth, l.keyHeight⟩ : KeyLayout κ))
    (Positions.ofList_entries l.positions)

theorem Build.chunked_eq (size : Int) (words : List String) :
    chunked (.whole size) words =
      if size = 0 then .error .chunkSizeZero else .ok (blocks size.toNat words) := by
  unfold chunked
  change (if size = 0 then _ else _) = _
  split <;> rfl

theorem Build.chunked_whole {size : Nat} (positive : 1 ≤ size) (words : List String) :
    chunked (.whole size) words = .ok (blocks size words) := by
  rw [chunked_eq, if_neg (by omega)]
  rfl

section
variable (s : Settings)

theorem Draft.mem_fieldNames (part : SettingsSection) {field : String × Value}
    (member : field ∈ ((ofSettings s).part part).fields) : field.1 ∈ part.fieldNames := by
  have names : ((ofSettings s).part part).fields.map Prod.fst = part.fieldNames := by
    cases part <;> rfl
  exact names ▸ List.mem_map_of_mem member

variable [Text.Halves]

theorem SettingsSection.checkName_fieldNames (part : SettingsSection) {name : String}
    (known : name ∈ part.fieldNames) : Value.checkName name = .ok () := by
  cases part <;> fin_cases known <;> rfl

namespace Draft

theorem passedSection_eq (d : Draft) (part : SettingsSection)
    (passes : ∀ field ∈ (d.part part).fields, field.1 ∈ part.fieldNames ∧
      passedField part field.1 field.2 = .ok field.2) :
    d.passedSection part = .ok (d.part part).fields := by
  rw [passedSection]
  generalize (d.part part).fields = fields at passes
  induction fields with
  | nil => rfl
  | cons field fields ih =>
    obtain ⟨known, passed⟩ := passes field List.mem_cons_self
    have named := part.checkName_fieldNames known
    have listed : part.fieldNames.contains field.1 = true := List.contains_iff_mem.mpr known
    rw [List.filterMapM_cons, ih fun other member => passes other (List.mem_cons_of_mem _ member)]
    simp only [named, listed, passed]
    rfl

theorem passedField_ofSettings (part : SettingsSection) {field : String × Value}
    (member : field ∈ ((ofSettings s).part part).fields) :
    passedField part field.1 field.2 = .ok field.2 := by
  cases part with
  | resample =>
    obtain rfl := List.mem_singleton.mp member
    rfl
  | features =>
    simp only [Draft.part, ofSettings, FeatureSettings.dump, List.mem_cons, List.not_mem_nil,
      or_false] at member
    rcases member with rfl | rfl | rfl | rfl
    · rfl
    · rfl
    · rfl
    · cases s.features.level <;> rfl
  | processing =>
    simp only [Draft.part, ofSettings, ProcessingSettings.dump, List.mem_cons, List.not_mem_nil,
      or_false] at member
    rcases member with rfl | rfl
    · cases s.processing.maxWorkers <;> rfl
    · rfl
  | logging =>
    simp only [Draft.part, ofSettings, LoggingSettings.dump, List.mem_cons, List.not_mem_nil,
      or_false] at member
    rcases member with rfl | rfl | rfl
    · cases s.logging.logFile <;> rfl
    · rfl
    · rfl

theorem dump_ofSettings :
    (ofSettings s).dump =
      .ok [("resample", .record s.resample.dump), ("features", .record s.features.dump)] := by
  have each (part : SettingsSection) := (ofSettings s).passedSection_eq part fun _ member =>
    ⟨mem_fieldNames s part member, passedField_ofSettings s part member⟩
  rw [dump, each, each, each, each]
  rfl

end Draft

namespace Check

theorem atLeast_whole {least n : Nat} (enough : least ≤ n) :
    atLeast least (.whole n) = .ok ⟨n, enough⟩ := by
  rw [atLeast]
  change (if h : (least : Int) ≤ n then _ else _) = _
  rw [dif_pos (by omega)]
  rfl

theorem between_whole {least greatest n : Nat} (bounds : least ≤ n ∧ n ≤ greatest) :
    between least greatest (.whole n) = .ok ⟨n, bounds⟩ := by
  rw [between, atLeast_whole bounds.1]
  exact dif_pos bounds.2

theorem field_eq {β : Type} {fields : List (String × Value)} {name : String} {v : Value} {x : β}
    (default : β) {check : Value → Except Complaint β} (found : Value.field? fields name = some v)
    (valid : check v = .ok x) : field fields name default check = .ok x := by
  rw [field, found]
  simp only [valid]
  rfl

end Check

theorem ResampleSettings.check_dump (s : ResampleSettings) : check s.dump = .ok s := by
  have count : Check.field s.dump "sample_count" ⟨64, by decide⟩ (Check.between 2 4096) = _ :=
    Check.field_eq _ rfl (Check.between_whole s.bounds)
  rw [check, count]
  rfl

theorem FeatureSettings.check_dump (s : FeatureSettings) : check s.dump = .ok s := by
  have count : Check.field s.dump "coefficient_count" ⟨8, by decide⟩ (Check.atLeast 1) = _ :=
    Check.field_eq _ rfl (Check.atLeast_whole s.positive)
  have wavelet : Check.field s.dump "wavelet" NamedWavelet.haar
      (Check.choice NamedWavelet.all NamedWavelet.name) = .ok s.wavelet :=
    Check.field_eq _ rfl (by cases s.wavelet <;> rfl)
  have transform : Check.field s.dump "transform" TransformKind.pyramid
      (Check.choice TransformKind.all TransformKind.name) = .ok s.transform :=
    Check.field_eq _ rfl (by cases s.transform <;> rfl)
  have level : Check.field s.dump "level" none (Check.optional (Check.atLeast 0)) =
      .ok (s.level.map fun n => ⟨n, n.zero_le⟩) := by
    refine Check.field_eq _ rfl ?_
    cases s.level with
    | none => rfl
    | some bound =>
      change (Check.atLeast 0 (.whole bound)).map some = _
      rw [Check.atLeast_whole bound.zero_le]
      rfl
  have same : (s.level.map fun n => (⟨n, n.zero_le⟩ : { n : Nat // 0 ≤ n })).map Subtype.val =
      s.level := by
    cases s.level <;> rfl
  rw [check, count, wavelet, transform, level]
  exact congrArg (fun level => Except.ok (⟨s.coefficientCount, s.wavelet, s.transform, level,
    s.positive⟩ : FeatureSettings)) same

/-- Sections that are each valid fail only if they do not fit together. -/
theorem chunkExtractor_dump (layout : KeyLayout Coordinate) (features : FeatureSettings)
    (resampling : ResampleSettings) :
    chunkExtractor layout.toRecord
        [("resample", .record resampling.dump), ("features", .record features.dump)] =
      (Extractor.ofSettings layout features resampling).mapError ChunkFault.counts := by
  have first : sectionFields [("resample", .record resampling.dump),
      ("features", .record features.dump)] .features = .ok features.dump := rfl
  have second : sectionFields [("resample", .record resampling.dump),
      ("features", .record features.dump)] .resample = .ok resampling.dump := rfl
  rw [chunkExtractor, layout.ofRecord_toRecord, first, second]
  change ((FeatureSettings.check features.dump).mapError _ >>= fun features =>
    (ResampleSettings.check resampling.dump).mapError _ >>= fun resampling =>
      (Extractor.ofSettings layout features resampling).mapError _) = _
  rw [features.check_dump, resampling.check_dump]
  rfl

theorem chunkExtractor_eq (s : Settings) (layout : KeyLayout Coordinate)
    {sections : List (String × Value)} (handed : (Draft.ofSettings s).dump = .ok sections) :
    chunkExtractor layout.toRecord sections = .ok ⟨layout, s.features, s.resample, s.fits⟩ := by
  obtain rfl := Except.ok.inj ((Draft.dump_ofSettings s).symm.trans handed)
  rw [chunkExtractor_dump, Extractor.ofSettings, dif_pos s.fits]
  rfl

/-- What can process one chunk can process any, and what cannot process one cannot process any. -/
theorem processChunk_ok {e : Extractor Coordinate} {layout : LayoutRecord Coordinate}
    {sections : List (String × Value)} (found : chunkExtractor layout sections = .ok e)
    (words : List String) : processChunk words layout sections = .ok (e.report words) := by
  rw [processChunk, found]
  rfl

theorem processChunk_error {fault : ChunkFault} {layout : LayoutRecord Coordinate}
    {sections : List (String × Value)} (failed : chunkExtractor layout sections = .error fault)
    (words : List String) : processChunk words layout sections = .error fault := by
  rw [processChunk, failed]
  rfl

namespace Build

theorem plan_eq_ok {d : Draft} {words : List String} {chunks : List (List String)}
    {sections : List (String × Value)} (planned : plan d words = .ok (chunks, sections)) :
    ∃ size n, d.get .processing "chunk_size" = .ok size ∧ wholeOf size = .ok n ∧ n ≠ 0 ∧
      chunks = blocks n.toNat words ∧ d.dump = .ok sections := by
  obtain ⟨size, got, planned⟩ := bind_eq_ok planned
  obtain ⟨cut, chunked, planned⟩ := bind_eq_ok planned
  obtain ⟨handed, dumped, same⟩ := bind_eq_ok planned
  obtain ⟨rfl, rfl⟩ := Prod.mk.inj (Except.ok.inj same)
  obtain ⟨n, whole, chunked⟩ := bind_eq_ok chunked
  by_cases zero : n = 0
  · rw [if_pos zero] at chunked
    exact nomatch chunked
  · rw [if_neg zero] at chunked
    exact ⟨size, n, mapError_eq_ok got, whole, zero, (Except.ok.inj chunked).symm,
      mapError_eq_ok dumped⟩

theorem plan_ofSettings (s : Settings) (words : List String) :
    ∃ sections, plan (.ofSettings s) words = .ok (blocks s.processing.chunkSize words, sections) ∧
      (Draft.ofSettings s).dump = .ok sections := by
  have size : (Draft.ofSettings s).get .processing "chunk_size" =
      .ok (.whole s.processing.chunkSize) := rfl
  have handed := Draft.dump_ofSettings s
  refine ⟨_, ?_, handed⟩
  rw [plan, size]
  change (chunked (.whole s.processing.chunkSize) words >>= _) = _
  rw [chunked_whole s.processing.positive]
  change ((Draft.ofSettings s).dump.mapError _ >>= _) = _
  rw [handed]
  rfl

end Build

end

end GestureLexicon
