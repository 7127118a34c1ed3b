import GestureLexicon.Proofs.Assignment

/-!
A chunk size that is assigned after the check. Zero is refused, but a negative size cuts no chunk at
all, and a build without chunks returns as if all were done. Main statement: `words_accounted_iff`.
-/

namespace GestureLexicon

namespace Build

theorem workersOf_chunkSize (s : Settings) (size : Int) (asked : Value) :
    ∃ w, workersOf (Draft.withAssigned s .processing "chunk_size" (.whole size)) asked = .ok w := by
  cases asked <;> exact ⟨_, rfl⟩

variable [Text.Halves] {o : Observer} {schedule : Schedule}

theorem plan_chunkSize (s : Settings) (size : Int) (words : List String) :
    plan (Draft.withAssigned s .processing "chunk_size" (.whole size)) words =
      if size = 0 then .error .chunkSizeZero
      else .ok (blocks size.toNat words,
        [("resample", .record s.resample.dump), ("features", .record s.features.dump)]) := by
  have known : "chunk_size" ∈ SettingsSection.processing.fieldNames := by decide
  have got : (Draft.withAssigned s .processing "chunk_size" (.whole size)).get .processing
      "chunk_size" = .ok (.whole size) := rfl
  unfold plan
  rw [got, Draft.dump_withAssigned s .processing known size]
  change (chunked (.whole size) words >>= _) = _
  rw [chunked_eq]
  split <;> rfl

section
variable (s : Settings) {size : Int} (nonzero : size ≠ 0)
include nonzero

theorem returns_chunkSize (layout : KeyLayout Coordinate) (words : List String) (asked : Value)
    (schedule : Schedule) (passive : o.Passive) (few : (blocks size.toNat words).length ≤ 1) :
    (build (Draft.withAssigned s .processing "chunk_size" (.whole size)) layout words asked o
      schedule).fault = none := by
  obtain ⟨workers, given⟩ := workersOf_chunkSize s size asked
  have planned := plan_chunkSize s size words
  rw [if_neg nonzero] at planned
  obtain ⟨final, returned, _⟩ := build_alone _ schedule passive given planned
    (chunkExtractor_eq s layout (Draft.dump_ofSettings s))
    (Bool.or_eq_true_iff.mpr (.inr (decide_eq_true few)))
  exact congrArg BuildReport.fault returned

theorem accounted_chunkSize (layout : KeyLayout Coordinate) (words : List String) (asked : Value)
    (passive : o.Passive) (complete : schedule.Complete) :
    let report := build (Draft.withAssigned s .processing "chunk_size" (.whole size)) layout words
      asked o schedule
    let counts := report.run.statistics
    report.fault = none → counts.total = (blocks size.toNat words).flatten.length ∧
      (report.run.rows.map Prod.fst ++ counts.skippedWords.map Prod.fst ++
        counts.failedWords.map Prod.fst).Perm (blocks size.toNat words).flatten := by
  obtain ⟨workers, given⟩ := workersOf_chunkSize s size asked
  have planned := plan_chunkSize s size words
  rw [if_neg nonzero] at planned
  exact accounted _ passive complete given planned
    (chunkExtractor_eq s layout (Draft.dump_ofSettings s))

end

end Build

open Build

/-- A build that returns accounts for every word exactly if the chunk size that was assigned is not
negative or there are no words. -/
theorem words_accounted_iff [Text.Halves] (s : Settings) (size : Int) (d : Draft)
    (layout : KeyLayout Coordinate) (words : List String) (asked : Value) (o : Observer)
    (schedule : Schedule)
    (assigned : (Draft.ofSettings s).assign "processing" "chunk_size" (.whole size) = .ok d)
    (passive : o.Passive) (complete : schedule.Complete) :
    let report := build d layout words asked o schedule
    let counts := report.run.statistics
    (report.fault = none → counts.total = words.length ∧
      (report.run.rows.map Prod.fst ++ counts.skippedWords.map Prod.fst ++
        counts.failedWords.map Prod.fst).Perm words) ↔ 0 ≤ size ∨ words = [] := by
  intro report counts
  have known : "chunk_size" ∈ SettingsSection.processing.fieldNames := by decide
  have accepted := Draft.assign_ofSettings s .processing known (.whole size)
  obtain rfl := Except.ok.inj (accepted.symm.trans assigned)
  by_cases zero : size = 0
  · have planned := plan_chunkSize s size words
    rw [if_pos zero] at planned
    obtain ⟨workers, given⟩ := workersOf_chunkSize s size asked
    have failed : report.fault = _ := build_unplanned passive given planned
    refine iff_of_true (fun returned => ?_) (.inl zero.ge)
    exact absurd (failed.symm.trans returned) (Option.some_ne_none _)
  · have covered := accounted_chunkSize s zero layout words asked passive complete
    by_cases natural : 0 ≤ size
    · rw [flatten_blocks (by omega) words] at covered
      exact iff_of_true covered (.inl natural)
    · have empty : blocks size.toNat words = [] := by
        rw [blocks, if_neg (by omega)]
      have returned : report.fault = none :=
        returns_chunkSize s zero layout words asked schedule passive (empty ▸ Nat.zero_le 1)
      rw [empty] at covered
      constructor
      · intro all
        have counted := (covered returned).1.symm.trans (all returned).1
        exact .inr (List.length_eq_zero_iff.mp (Int.ofNat_inj.mp counted.symm))
      · rintro (positive | rfl)
        · exact absurd positive natural
        · exact covered

/-- Chunks of seven are assigned, the first of which holds both words. -/
theorem words_accounted_iff_chunks_of_seven :
    let s := Settings.default
    let layout := (KeyLayout.ofRows [⟨["a", "b", "c"], 0⟩] 10 10).map Coordinate.whole
    let words := ["!", "a"]
    ∃ d, (Draft.ofSettings s).assign "processing" "chunk_size" (.whole 7) = .ok d ∧
      let report := @build .absent d layout words .null {} .backwards
      report.fault = none ∧ report.run.statistics.total = 2 := by
  intro s layout words
  let _ : Text.Halves := .absent
  have assigned : (Draft.ofSettings s).assign "processing" "chunk_size" (.whole 7) = _ :=
    Draft.assign_ofSettings s .processing (by decide) (.whole 7)
  have passive : ({} : Observer).Passive := fun _ _ => rfl
  have returned := returns_chunkSize s (by decide : (7 : Int) ≠ 0) layout words .null .backwards
    passive (by simp [blocks, words])
  have accounted := (words_accounted_iff s 7 _ layout words .null {} .backwards assigned passive
    Schedule.complete_backwards).mpr (.inl (by decide))
  exact ⟨_, assigned, returned, (accounted returned).1⟩

/-- A negative chunk size is assigned: the build returns, and neither word is in any count. -/
theorem words_accounted_negative_size :
    let s := Settings.default
    let layout := (KeyLayout.ofRows [⟨["a", "b", "c"], 0⟩] 10 10).map Coordinate.whole
    let words := ["ab", "ba"]
    ∃ d, (Draft.ofSettings s).assign "processing" "chunk_size" (.whole (-1)) = .ok d ∧
      let report := @build .absent d layout words .null {} .backwards
      report.fault = none ∧ report.run.statistics.total ≠ words.length := by
  intro s layout words
  let _ : Text.Halves := .absent
  have assigned : (Draft.ofSettings s).assign "processing" "chunk_size" (.whole (-1)) = _ :=
    Draft.assign_ofSettings s .processing (by decide) (.whole (-1))
  have passive : ({} : Observer).Passive := fun _ _ => rfl
  have empty : blocks (Int.toNat (-1)) words = [] := by simp [blocks]
  have returned := returns_chunkSize s (by decide : (-1 : Int) ≠ 0) layout words .null .backwards
    passive (empty ▸ Nat.zero_le 1)
  have counted := (accounted_chunkSize s (by decide) layout words .null passive
    Schedule.complete_backwards returned).1
  rw [empty] at counted
  exact ⟨_, assigned, returned, counted ▸ by decide⟩

end GestureLexicon
