import GestureLexicon.Settings.Check
import GestureLexicon.Wavelet

/-!
The settings of a build, in sections, with their defaults and bounds, which a settings object keeps
in its type.
-/

namespace GestureLexicon

inductive TransformKind where
  | pyramid
  | packet
  | filter
  deriving DecidableEq, Repr

namespace TransformKind

def name : TransformKind → String
  | pyramid => "fast"
  | packet => "packet"
  | filter => "filter"

def all : List TransformKind := [pyramid, packet, filter]

end TransformKind

inductive SettingsSection where
  | resample
  | features
  | processing
  | logging
  deriving DecidableEq, Repr

namespace SettingsSection

def name : SettingsSection → String
  | resample => "resample"
  | features => "features"
  | processing => "processing"
  | logging => "logging"

def title : SettingsSection → String
  | resample => "ResampleConfig"
  | features => "FeatureConfig"
  | processing => "ProcessingConfig"
  | logging => "LoggingConfig"

def ofName? (s : String) : Option SettingsSection :=
  [resample, features, processing, logging].find? fun part => part.name == s

def fieldNames : SettingsSection → List String
  | resample => ["sample_count"]
  | features => ["coefficient_count", "wavelet", "transform", "level"]
  | processing => ["max_workers", "chunk_size"]
  | logging => ["log_file", "log_level", "file_log_level"]

def wholeNames : SettingsSection → List String
  | resample => ["sample_count"]
  | features => ["coefficient_count", "level"]
  | processing => ["max_workers", "chunk_size"]
  | logging => []

def commonDerivedNames : List String :=
  ["model_extra", "model_fields_set", "__fields__", "__fields_set__"]

/-- What follows from the fields of a section and cannot be assigned. -/
def derivedNames : SettingsSection → List String
  | features => "vector_length" :: commonDerivedNames
  | _ => commonDerivedNames

end SettingsSection

structure ResampleSettings where
  sampleCount : Nat
  bounds : 2 ≤ sampleCount ∧ sampleCount ≤ 4096

structure FeatureSettings where
  coefficientCount : Nat
  wavelet : NamedWavelet
  transform : TransformKind
  level : Option Nat
  positive : 1 ≤ coefficientCount

structure ProcessingSettings where
  maxWorkers : Option { n : Nat // 1 ≤ n }
  chunkSize : Nat
  positive : 1 ≤ chunkSize

structure LoggingSettings where
  logFile : Option String
  logLevel : String
  fileLogLevel : String
  deriving DecidableEq, Repr

structure CountError where
  coefficients : Nat
  samples : Nat
  deriving DecidableEq, Repr

def CountError.message (e : CountError) : String :=
  s!"coefficient_count ({e.coefficients}) exceeds sample_count ({e.samples})"

variable [Text.Halves]

namespace ResampleSettings

def default : ResampleSettings := ⟨64, by decide⟩

def check (fields : List (String × Value)) : Checked ResampleSettings :=
  Checked.apply (.ok fun count => ⟨count.1, count.2⟩)
    (Check.field fields "sample_count" ⟨64, by decide⟩ (Check.between 2 4096))

def dump (s : ResampleSettings) : List (String × Value) :=
  [("sample_count", .whole s.sampleCount)]

end ResampleSettings

namespace FeatureSettings

def default : FeatureSettings := ⟨8, .haar, .pyramid, none, by decide⟩

def check (fields : List (String × Value)) : Checked FeatureSettings :=
  Checked.apply (Checked.apply (Checked.apply (Checked.apply
    (.ok fun count wavelet transform level =>
      ⟨count.1, wavelet, transform, level.map Subtype.val, count.2⟩)
    (Check.field fields "coefficient_count" ⟨8, by decide⟩ (Check.atLeast 1)))
    (Check.field fields "wavelet" NamedWavelet.haar
      (Check.choice NamedWavelet.all NamedWavelet.name)))
    (Check.field fields "transform" TransformKind.pyramid
      (Check.choice TransformKind.all TransformKind.name)))
    (Check.field fields "level" none (Check.optional (Check.atLeast 0)))

def dump (s : FeatureSettings) : List (String × Value) :=
  [("coefficient_count", .whole s.coefficientCount), ("wavelet", .text s.wavelet.name),
   ("transform", .text s.transform.name), ("level", (s.level.map fun n => .whole n).getD .null)]

/-- The length of a feature vector: the reserved slot and both axes. -/
def vectorLength (s : FeatureSettings) : Nat :=
  1 + 2 * s.coefficientCount

end FeatureSettings

namespace ProcessingSettings

def default : ProcessingSettings := ⟨some ⟨1, by decide⟩, 256, by decide⟩

def check (fields : List (String × Value)) : Checked ProcessingSettings :=
  Checked.apply (Checked.apply (.ok fun workers size => ⟨workers, size.1, size.2⟩)
    (Check.field fields "max_workers" (some ⟨1, by decide⟩) (Check.optional (Check.atLeast 1))))
    (Check.field fields "chunk_size" ⟨256, by decide⟩ (Check.atLeast 1))

def dump (s : ProcessingSettings) : List (String × Value) :=
  [("max_workers", (s.maxWorkers.map fun n => .whole n.1).getD .null),
   ("chunk_size", .whole s.chunkSize)]

end ProcessingSettings

namespace LoggingSettings

def default : LoggingSettings := ⟨none, "WARNING", "DEBUG"⟩

def check (fields : List (String × Value)) : Checked LoggingSettings :=
  Checked.apply (Checked.apply (Checked.apply (.ok LoggingSettings.mk)
    (Check.field fields "log_file" none (Check.optional Check.path)))
    (Check.field fields "log_level" "WARNING" Check.text))
    (Check.field fields "file_log_level" "DEBUG" Check.text)

def dump (s : LoggingSettings) : List (String × Value) :=
  [("log_file", (s.logFile.map Value.text).getD .null), ("log_level", .text s.logLevel),
   ("file_log_level", .text s.fileLogLevel)]

end LoggingSettings

/-- Settings whose sections are each within bounds and fit together. -/
structure Settings where
  resample : ResampleSettings
  features : FeatureSettings
  processing : ProcessingSettings
  logging : LoggingSettings
  fits : features.coefficientCount ≤ resample.sampleCount

namespace Settings

def default : Settings := ⟨.default, .default, .default, .default, by decide⟩

/-- Settings from unchecked fields. The sections are compared only if each of them is valid. -/
def check (fields : List (String × Value)) : Checked Settings := do
  let sections ← Checked.apply (Checked.apply (Checked.apply (Checked.apply
    (.ok fun resample features processing logging => (resample, features, processing, logging))
    (Check.sectionOf fields "resample" ResampleSettings.check))
    (Check.sectionOf fields "features" FeatureSettings.check))
    (Check.sectionOf fields "processing" ProcessingSettings.check))
    (Check.sectionOf fields "logging" LoggingSettings.check)
  let (resample, features, processing, logging) := sections
  if h : features.coefficientCount ≤ resample.sampleCount then
    return ⟨resample, features, processing, logging, h⟩
  else
    let e : CountError := ⟨features.coefficientCount, resample.sampleCount⟩
    throw [(Complaint.inconsistent s!"Value error, {e.message}").about [] (.record fields)]

def dump (s : Settings) : List (String × Value) :=
  [("resample", .record s.resample.dump), ("features", .record s.features.dump),
   ("processing", .record s.processing.dump), ("logging", .record s.logging.dump)]

end Settings

end GestureLexicon
