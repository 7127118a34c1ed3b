import GestureLexicon.Decimal
import GestureLexicon.Extraction
import GestureLexicon.Logging.Event
import GestureLexicon.Settings.Report

/-!
One chunk of words, from unchecked settings and the record of a layout to an outcome for each word.
A fault in the settings or the layout concerns the whole chunk; all else concerns one word.
-/

namespace GestureLexicon

inductive WordOutcome where
  | row (vector : FeatureVector Float)
  | skipped (reason : String)
  | failed (message : String)
  deriving DecidableEq

structure WordResult where
  word : String
  outcome : WordOutcome
  deriving DecidableEq

structure ChunkReport where
  results : List WordResult
  log : List LogEvent

inductive ChunkFault where
  | missing (field : MissingField)
  /-- A section that is a value of another kind than a record. -/
  | notARecord (part : SettingsSection) (kind : String)
  | settings (part : SettingsSection) (findings : List Finding)
  | counts (e : CountError)
  deriving DecidableEq, Repr

def ChunkFault.message : ChunkFault → String
  | missing field => field.message
  | notARecord part kind =>
    s!"slidedict.config.settings.{part.title}() argument after ** must be a mapping, not {kind}"
  | settings part findings => Finding.report part.title findings
  | counts e => e.message

variable [Text.Halves]

namespace Extractor

/-- The outcome of one word: only a word without a path is skipped. -/
def outcome (e : Extractor Coordinate) (word : String) : WordOutcome :=
  match (e.extract word : Except ExtractionError (FeatureVector Float)) with
  | .ok vector => .row vector
  | .error (.word fault) => .skipped fault.fault.reason
  | .error failure => .failed failure.message

def pathEvent? (e : Extractor Coordinate) (word : String) : Option LogEvent :=
  match (e.path word : Except ExtractionError (WordPath Float)) with
  | .ok path =>
    some (.path word path.xs.length (Decimal.rounded (Path.totalLength path.lengths)))
  | .error _ => none

def report (e : Extractor Coordinate) (words : List String) : ChunkReport :=
  ⟨words.map fun word => ⟨word, e.outcome word⟩, words.filterMap e.pathEvent?⟩

end Extractor

def sectionFields (sections : List (String × Value)) (part : SettingsSection) :
    Except ChunkFault (List (String × Value)) :=
  match (Value.field? sections part.name).getD (.record []) with
  | .record fields => .ok fields
  | v => .error (.notARecord part v.kind)

def chunkExtractor (layout : LayoutRecord Coordinate) (sections : List (String × Value)) :
    Except ChunkFault (Extractor Coordinate) := do
  let layout ← (KeyLayout.ofRecord layout).mapError ChunkFault.missing
  let features ← (FeatureSettings.check (← sectionFields sections .features)).mapError
    (ChunkFault.settings .features)
  let resampling ← (ResampleSettings.check (← sectionFields sections .resample)).mapError
    (ChunkFault.settings .resample)
  (Extractor.ofSettings layout features resampling).mapError ChunkFault.counts

/-- An outcome for every word of a chunk, or the fault that none has one for. -/
def processChunk (words : List String) (layout : LayoutRecord Coordinate)
    (sections : List (String × Value)) : Except ChunkFault ChunkReport := do
  return (← chunkExtractor layout sections).report words

end GestureLexicon
