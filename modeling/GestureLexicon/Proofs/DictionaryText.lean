import GestureLexicon.Proofs.Extraction
import GestureLexicon.Proofs.Written

/-!
Dictionary text that is read back. Numbers are printed without a tab or a line feed, so the words
alone decide whether lines and fields can be told apart: the rows of a build are read back from its
text exactly if no word in them holds a tab or a line feed. Main statement:
`dictionary_reads_back_iff`.
-/

namespace GestureLexicon

theorem of_mem_splitOn {a : Char} {cs part : List Char} (member : part ∈ cs.splitOn a) :
    ∀ c ∈ part, c ∈ cs ∧ c ≠ a := by
  induction cs generalizing part with
  | nil =>
    obtain rfl := List.mem_singleton.mp (List.splitOn_nil a ▸ member)
    exact List.forall_mem_nil _
  | cons b cs ih =>
    have rest {other : List Char} (among : other ∈ cs.splitOn a) :
        ∀ c ∈ other, c ∈ b :: cs ∧ c ≠ a :=
      fun c within => ⟨List.mem_cons_of_mem b (ih among c within).1, (ih among c within).2⟩
    rw [List.splitOn_cons_eq_if_modifyHead] at member
    by_cases here : b = a
    · rw [if_pos (beq_iff_eq.mpr here)] at member
      rcases List.mem_cons.mp member with rfl | later
      · exact List.forall_mem_nil _
      · exact rest later
    · obtain ⟨first, others, parts⟩ := List.exists_cons_of_ne_nil (List.splitOn_ne_nil a cs)
      rw [if_neg (mt beq_iff_eq.mp here), parts] at member
      rcases List.mem_cons.mp member with rfl | later
      · exact List.forall_mem_cons.mpr
          ⟨⟨List.mem_cons_self, here⟩, rest (parts ▸ List.mem_cons_self)⟩
      · exact rest (parts ▸ List.mem_cons_of_mem _ later)

/-- Text that stays within a field: nothing in it ends a field or a line. -/
abbrev Text.Plain (s : String) : Prop :=
  '\t' ∉ s.toList ∧ '\n' ∉ s.toList

open Text (Plain)

theorem Text.Plain.append {first second : String} (a : Plain first) (b : Plain second) :
    Plain (first ++ second) := by
  unfold Plain
  simp only [String.toList_append, List.mem_append, not_or]
  exact ⟨⟨a.1, b.1⟩, a.2, b.2⟩

namespace Decimal

theorem plain_toString (n : Nat) : Plain (toString n) := by
  have digits : ∀ c ∈ (toString n).toList, c.isDigit = true := by
    intro c member
    rw [show (toString n).toList = Nat.toDigits 10 n from Nat.toList_repr] at member
    exact Nat.isDigit_of_mem_toDigits (by decide) le_rfl member
  constructor
  · exact fun tab => absurd (digits _ tab) (by decide)
  · exact fun feed => absurd (digits _ feed) (by decide)

theorem toList_pushn (k : Nat) : ("".pushn '0' k).toList = List.replicate k '0' := by
  induction k with
  | zero => rfl
  | succ k ih =>
    have pushed : "".pushn '0' (k + 1) = ("".pushn '0' k).push '0' := rfl
    rw [pushed, String.toList_push, ih, List.replicate_succ']

theorem plain_pushn (k : Nat) : Plain ("".pushn '0' k) := by
  unfold Plain
  rw [toList_pushn]
  constructor
  · exact fun tab => absurd (List.eq_of_mem_replicate tab) (by decide)
  · exact fun feed => absurd (List.eq_of_mem_replicate feed) (by decide)

theorem plain_placed (count : Nat) : Plain (placed count) := by
  unfold placed
  apply Plain.append _ (plain_toString _)
  apply Plain.append _ (plain_pushn _)
  exact (plain_toString _).append (by decide)

theorem plain_signText (sign : Float.Model.UnpackedFloat.Sign) : Plain (signText sign) := by
  cases sign <;> decide

theorem plain_fixed (x : Float) : Plain (fixed x) := by
  unfold fixed
  cases Binary64.unpack x with
  | notANumber => decide
  | infinity sign => exact (plain_signText sign).append (by decide)
  | zero sign => exact (plain_signText sign).append (plain_placed 0)
  | finite sign significand exponent _ => exact (plain_signText sign).append (plain_placed _)

end Decimal

namespace Dictionary

/-- Text of so many lines, each with a line feed after it and so many fields with tabs between them,
of which the first are words. -/
def ReadsBack (text : String) (count fields : Nat) (words : List String) : Prop :=
  ∃ lines : List (List Char), text.toList.splitOn '\n' = lines ++ [[]] ∧ lines.length = count ∧
    (∀ line ∈ lines, (line.splitOn '\t').length = fields) ∧
    lines.map (fun line => (line.splitOn '\t').head?) = words.map fun word => some word.toList

theorem ReadsBack.plain {text : String} {count fields : Nat} {words : List String}
    (back : ReadsBack text count fields words) : ∀ word ∈ words, Plain word := by
  obtain ⟨lines, cut, _, _, firsts⟩ := back
  intro word member
  have listed : some word.toList ∈ lines.map fun line => (line.splitOn '\t').head? := by
    rw [firsts]
    exact List.mem_map.mpr ⟨word, member, rfl⟩
  obtain ⟨line, among, first⟩ := List.mem_map.mp listed
  have field := of_mem_splitOn (List.mem_of_head? first)
  have within := of_mem_splitOn (cut ▸ List.mem_append_left _ among)
  constructor
  · exact fun tab => (field _ tab).2 rfl
  · exact fun feed => (within _ (field _ feed).1).2 rfl

section
variable {word : String} {vector : FeatureVector Float}

theorem toList_parameters {values : List Float} (nonempty : values ≠ []) :
    (parameters values).toList =
      ['\t'].intercalate (values.map fun x => (Decimal.fixed x).toList) := by
  cases values with
  | nil => exact absurd rfl nonempty
  | cons x values =>
    change ("\t".intercalate _).toList = _
    rw [String.toList_intercalate, List.map_map]
    rfl

theorem splitOn_parameters {values : List Float} (nonempty : values ≠ []) :
    (parameters values).toList.splitOn '\t' = values.map fun x => (Decimal.fixed x).toList := by
  rw [toList_parameters nonempty, List.splitOn_intercalate]
  · intro field member
    obtain ⟨x, _, rfl⟩ := List.mem_map.mp member
    exact (Decimal.plain_fixed x).1
  · simpa using nonempty

theorem splitOn_row (plain : Plain word) (nonempty : vector.values ≠ []) :
    (row word vector).toList.splitOn '\t' =
      word.toList :: vector.values.map fun x => (Decimal.fixed x).toList := by
  have shape : (row word vector).toList =
      word.toList ++ '\t' :: (parameters vector.values).toList := by
    simp [row]
  rw [shape, List.splitOn_append_cons_self_of_not_mem plain.1, splitOn_parameters nonempty]

theorem not_mem_intercalate {c : Char} (other : c ≠ '\t') {parts : List (List Char)}
    (absent : ∀ part ∈ parts, c ∉ part) : c ∉ ['\t'].intercalate parts := by
  induction parts with
  | nil => exact List.not_mem_nil
  | cons part parts ih =>
    obtain ⟨first, behind⟩ := List.forall_mem_cons.mp absent
    cases parts with
    | nil =>
      rw [List.intercalate_singleton]
      exact first
    | cons second rest =>
      rw [List.intercalate_cons_cons, List.mem_append, List.mem_append, List.mem_singleton]
      rintro ((here | tab) | later)
      · exact first here
      · exact other tab
      · exact ih behind later

theorem not_mem_row (plain : Plain word) (nonempty : vector.values ≠ []) :
    '\n' ∉ (row word vector).toList := by
  have joined : ['\t'].intercalate ((row word vector).toList.splitOn '\t') =
      (row word vector).toList := List.intercalate_splitOn '\t'
  rw [← joined, splitOn_row plain nonempty]
  apply not_mem_intercalate (by decide)
  intro field member
  rcases List.mem_cons.mp member with rfl | number
  · exact plain.2
  · obtain ⟨x, _, rfl⟩ := List.mem_map.mp number
    exact (Decimal.plain_fixed x).2

end

theorem splitOn_lines {rows : List (String × FeatureVector Float)}
    (within : ∀ r ∈ rows, '\n' ∉ (row r.1 r.2).toList) :
    (String.join (rows.map fun r => line r.1 r.2)).toList.splitOn '\n' =
      (rows.map fun r => (row r.1 r.2).toList) ++ [[]] := by
  rw [String.toList_join]
  induction rows with
  | nil => rfl
  | cons r rows ih =>
    obtain ⟨first, behind⟩ := List.forall_mem_cons.mp within
    have shape (rest : List Char) : (line r.1 r.2).toList ++ rest =
        (row r.1 r.2).toList ++ '\n' :: rest := by
      simp [line]
    rw [List.map_cons, List.flatMap_cons, shape, List.splitOn_append_cons_self_of_not_mem first,
      ih behind]
    rfl

/-- Rows with so many numbers are read back exactly if their words stay within their fields. -/
theorem readsBack_iff {rows : List (String × FeatureVector Float)} {count : Nat}
    (positive : 0 < count) (sizes : ∀ r ∈ rows, r.2.values.length = count) :
    ReadsBack (.join (rows.map fun r => line r.1 r.2)) rows.length (1 + count) (rows.map Prod.fst) ↔
      ∀ word ∈ rows.map Prod.fst, Plain word := by
  constructor
  · exact ReadsBack.plain
  · intro plain
    have filled : ∀ r ∈ rows, r.2.values ≠ [] := fun r member =>
      List.ne_nil_of_length_pos (sizes r member ▸ positive)
    have each : ∀ r ∈ rows, Plain r.1 := fun r member => plain _ (List.mem_map_of_mem member)
    have within : ∀ r ∈ rows, '\n' ∉ (row r.1 r.2).toList := fun r member =>
      not_mem_row (each r member) (filled r member)
    refine ⟨_, splitOn_lines within, List.length_map _, ?_, ?_⟩
    · intro cs member
      obtain ⟨r, among, rfl⟩ := List.mem_map.mp member
      rw [splitOn_row (each r among) (filled r among), List.length_cons, List.length_map,
        sizes r among, Nat.add_comm]
    · rw [List.map_map, List.map_map]
      apply List.map_congr_left
      intro r member
      rw [Function.comp_apply, splitOn_row (each r member) (filled r member)]
      rfl

end Dictionary

theorem Extractor.length_of_extract (e : Extractor Coordinate) {word : String}
    {v : FeatureVector Float} (sent : e.extract word = .ok v) :
    v.values.length = e.features.vectorLength := by
  obtain ⟨axes, _, sent⟩ := bind_eq_ok sent
  obtain ⟨x, _, sent⟩ := bind_eq_ok sent
  obtain ⟨y, _, sent⟩ := bind_eq_ok sent
  exact FeatureVector.length_of_assemble (mapError_eq_ok sent)

theorem Extractor.length_of_row? (e : Extractor Coordinate) {failure : Option String}
    {word : String} {r : String × FeatureVector Float}
    (written : (e.resultOf failure word).row? = some r) :
    r.2.values.length = e.features.vectorLength := by
  cases failure with
  | some message => exact nomatch written
  | none =>
    have own : (WordResult.mk word (e.outcome word)).row? = some r := written
    unfold outcome at own
    split at own
    · next v sent =>
      obtain rfl := Option.some.inj own
      exact e.length_of_extract sent
    · exact nomatch own
    · exact nomatch own

namespace Build
variable [Text.Halves] {o : Observer} {schedule : Schedule}

theorem length_of_rows (s : Settings) (layout : KeyLayout Coordinate) (words : List String)
    (asked : Value) (passive : o.Passive) (complete : schedule.Complete) :
    ∀ r ∈ (build (.ofSettings s) layout words asked o schedule).run.rows,
      r.2.values.length = s.features.vectorLength := by
  obtain ⟨workers, given⟩ := workersOf_any s asked
  obtain ⟨sections, planned, handed⟩ := plan_ofSettings s words
  obtain ⟨final, fault, results, course, told, own, _⟩ := build_course _ passive complete given
    planned (chunkExtractor_eq s layout handed)
  intro r member
  rw [course, told.rows] at member
  obtain ⟨result, among, written⟩ := List.mem_filterMap.mp member
  obtain ⟨failure, same⟩ := own result among
  exact Extractor.length_of_row? _ (same ▸ written)

theorem rows_of_few (s : Settings) (layout : KeyLayout Coordinate) {words : List String}
    (asked : Value) (schedule : Schedule) (passive : o.Passive)
    (few : words.length ≤ s.processing.chunkSize) :
    (build (.ofSettings s) layout words asked o schedule).run.rows =
      (words.map ((extractorOf s layout).resultOf none)).filterMap WordResult.row? := by
  obtain ⟨workers, given⟩ := workersOf_any s asked
  obtain ⟨sections, planned, handed⟩ := plan_ofSettings s words
  obtain ⟨final, returned, told⟩ := build_alone (extractorOf s layout) schedule passive given
    planned (chunkExtractor_eq s layout handed) (Bool.or_eq_true_iff.mpr
      (.inr (decide_eq_true (length_blocks_le_one few))))
  have whole := flatten_blocks s.processing.positive words
  rw [returned, told.rows, ← List.map_flatten, whole]

end Build

/-- The text of a dictionary is read back exactly if no word in it holds a tab or a line feed. -/
theorem dictionary_reads_back_iff [Text.Halves] (s : Settings) (layout : KeyLayout Coordinate)
    (words : List String) (asked : Value) (o : Observer) (schedule : Schedule)
    (passive : o.Passive) (complete : schedule.Complete) :
    let run := (build (.ofSettings s) layout words asked o schedule).run
    let written := run.rows.map Prod.fst
    Dictionary.ReadsBack (Command.outputOf run.trace.toList) run.written
        (1 + s.features.vectorLength) written ↔
      ∀ word ∈ written, '\t' ∉ word.toList ∧ '\n' ∉ word.toList := by
  intro run written
  rw [Command.outputOf_eq, Build.written_eq]
  apply Dictionary.readsBack_iff
  · unfold FeatureSettings.vectorLength
    omega
  · exact Build.length_of_rows s layout words asked passive complete

section
variable {e : Extractor Coordinate} {word : String}

theorem Extractor.row?_resultOf (embedded : e.layout.Embedded Float)
    (several : 2 ≤ (Word.letters word).length)
    (mapped : ∀ letter ∈ Word.letters word, (e.centre? letter).isSome) :
    ∃ v, (e.resultOf none word).row? = some (word, v) := by
  obtain ⟨v, sent⟩ := e.extract_ok word embedded several mapped
  refine ⟨v, ?_⟩
  change (WordResult.mk word (e.outcome word)).row? = _
  rw [outcome, sent]
  rfl

end

theorem row?_three_keys (s : Settings) {word : String} (letters : Word.letters word = ['a', 'b']) :
    let layout := (KeyLayout.ofRows [⟨["a", "b", "c"], 0⟩] 10 10).map Coordinate.whole
    ∃ v, ((Build.extractorOf s layout).resultOf none word).row? = some (word, v) := by
  intro layout
  have embedded : layout.Embedded Float := by
    intro entry member
    change entry ∈ [_, _, _] at member
    rcases List.mem_cons.mp member with rfl | later
    · exact ⟨rfl, rfl⟩
    · rcases List.mem_pair.mp later with rfl | rfl <;> exact ⟨rfl, rfl⟩
  apply Extractor.row?_resultOf embedded
  · rw [letters]
    exact le_rfl
  · rw [letters]
    intro letter member
    rcases List.mem_pair.mp member with rfl | rfl <;> rfl

/-- A word that has a row and one that has none. -/
theorem dictionary_reads_back_two_words :
    let s := Settings.default
    let layout := (KeyLayout.ofRows [⟨["a", "b", "c"], 0⟩] 10 10).map Coordinate.whole
    let words := ["ab", "!"]
    let run := (@build .absent (.ofSettings s) layout words .null {} .backwards).run
    ({} : Observer).Passive ∧ Schedule.backwards.Complete ∧ run.rows.map Prod.fst = ["ab"] ∧
      Dictionary.ReadsBack (Command.outputOf run.trace.toList) run.written 18 ["ab"] := by
  intro s layout words run
  let _ : Text.Halves := .absent
  have passive : ({} : Observer).Passive := fun _ _ => rfl
  have complete := Schedule.complete_backwards
  have rows : run.rows = (words.map ((Build.extractorOf s layout).resultOf none)).filterMap
      WordResult.row? :=
    Build.rows_of_few s layout .null .backwards passive (by decide)
  obtain ⟨v, first⟩ : ∃ v, ((Build.extractorOf s layout).resultOf none "ab").row? =
      some ("ab", v) := row?_three_keys s rfl
  have second : ((Build.extractorOf s layout).resultOf none "!").row? = none := rfl
  have written : run.rows.map Prod.fst = ["ab"] := by
    rw [rows]
    simp only [words, List.map_cons, List.map_nil, List.filterMap_cons, first, second,
      List.filterMap_nil]
  have back := (dictionary_reads_back_iff s layout words .null {} .backwards passive complete).mpr
  refine ⟨passive, complete, written, ?_⟩
  rw [written] at back
  exact back (by decide)

/-- A word list whose word stands on a line of its own: the word keeps both line feeds, it has a
row, and what is written is not read back. -/
theorem dictionary_not_read_back_line_feeds :
    let s := Settings.default
    let layout := (KeyLayout.ofRows [⟨["a", "b", "c"], 0⟩] 10 10).map Coordinate.whole
    let words := Document.wordsOfRoot (.mk "wordlist" [] "" [.mk "w" [] "\nab\n" []])
    let run := (@build .absent (.ofSettings s) layout words .null {} .backwards).run
    words = ["\nab\n"] ∧ run.rows.map Prod.fst = words ∧
      ¬Dictionary.ReadsBack (Command.outputOf run.trace.toList) run.written 18 words := by
  intro s layout words run
  let _ : Text.Halves := .absent
  have kept : words = ["\nab\n"] := by decide
  have rows : run.rows = (words.map ((Build.extractorOf s layout).resultOf none)).filterMap
      WordResult.row? :=
    Build.rows_of_few s layout .null .backwards (fun _ _ => rfl) (by decide)
  obtain ⟨v, first⟩ : ∃ v, ((Build.extractorOf s layout).resultOf none "\nab\n").row? =
      some ("\nab\n", v) := row?_three_keys s rfl
  have written : run.rows.map Prod.fst = words := by
    rw [rows, kept]
    simp only [List.map_cons, List.map_nil, List.filterMap_cons, first, List.filterMap_nil]
  refine ⟨kept, written, fun back => ?_⟩
  have plain := back.plain "\nab\n" (kept ▸ List.mem_singleton_self _)
  exact plain.2 (by decide)

end GestureLexicon
