import GestureLexicon.FeatureVector
import GestureLexicon.KeyLayout
import GestureLexicon.Path
import GestureLexicon.Resample
import GestureLexicon.Settings
import GestureLexicon.Transform
import GestureLexicon.Word

/-!
From a word to its feature vector. The word's letters are looked up on the keyboard, the path
through their keys is resampled along its length, both axes are transformed, and the leading
coefficients are kept. A word without a path is told apart from a failure of the computation.
-/

namespace GestureLexicon

inductive WordFault where
  | noLetters
  | unmapped (letter : Char)
  | singleLetter
  deriving DecidableEq, Repr

def WordFault.reason : WordFault → String
  | noLetters => "no letters after normalization"
  | unmapped letter => s!"no key for character '{letter}'"
  | singleLetter => "single-letter words have no path"

structure WordError where
  word : String
  fault : WordFault
  deriving DecidableEq, Repr

def WordError.message (e : WordError) : String :=
  s!"No slide parameters for '{e.word}': {e.fault.reason}"

inductive ExtractionError where
  | word (e : WordError)
  | path (e : PathError)
  | resample (e : ResampleError)
  | transform (e : TransformError)
  | features (e : FeatureError)
  deriving DecidableEq, Repr

def ExtractionError.message : ExtractionError → String
  | word e => e.message
  | path e => e.message
  | resample e => e.message
  | transform e => e.message
  | features e => e.message

namespace FeatureSettings
variable {α : Type} [Zero α] [Add α] [Sub α] [Neg α] [Mul α] [Div α] [Scalar α]

def buildTransform (s : FeatureSettings) : Transform α :=
  let wavelet : Wavelet α := .ofNamed s.wavelet
  .decomposed (match s.transform with
    | .pyramid => .pyramid wavelet
    | .packet => .packet wavelet
    | .filter => .filter wavelet)

end FeatureSettings

/-- A keyboard with settings that fit together: no more coefficients than samples. -/
structure Extractor (κ : Type) where
  layout : KeyLayout κ
  features : FeatureSettings
  resampling : ResampleSettings
  fits : features.coefficientCount ≤ resampling.sampleCount

/-- A word's path: one list of scalars per axis, and the lengths of its segments. -/
structure WordPath (α : Type) where
  xs : List α
  ys : List α
  lengths : List α

namespace WordPath
variable {α : Type} [Zero α] [Add α] [Sub α] [Mul α] [Div α] [Scalar α]

def resampled (p : WordPath α) (count : Nat) : Except ResampleError (List α × List α) := do
  return (← resample p.xs p.lengths count, ← resample p.ys p.lengths count)

end WordPath

namespace Extractor
variable {κ : Type}

def ofSettings (layout : KeyLayout κ) (features : FeatureSettings) (resampling : ResampleSettings) :
    Except CountError (Extractor κ) :=
  if h : features.coefficientCount ≤ resampling.sampleCount then
    .ok ⟨layout, features, resampling, h⟩
  else .error ⟨features.coefficientCount, resampling.sampleCount⟩

/-- The key centres of a word's letters; the first letter without a key is the fault. -/
def points (e : Extractor κ) (word : String) : Except WordError (List (Point κ)) :=
  (Word.letters word).mapM fun letter =>
    match e.layout.position? (String.singleton letter) with
    | some centre => .ok centre
    | none => .error ⟨word, .unmapped letter⟩

def corners (e : Extractor κ) (word : String) : Except WordError (List (Point κ)) := do
  if (Word.letters word).isEmpty then throw ⟨word, .noLetters⟩
  let centres ← e.points word
  if centres.length < 2 then throw ⟨word, .singleLetter⟩
  return centres

variable {α : Type} [Embeds κ α] [Zero α] [Add α] [Sub α] [Neg α] [Mul α] [Div α] [Scalar α]

def path (e : Extractor κ) (word : String) : Except ExtractionError (WordPath α) := do
  let centres ← (e.corners word).mapError ExtractionError.word
  let (xs, ys) ← (Path.coordinates centres).mapError ExtractionError.path
  let lengths ← (Path.segmentLengths xs ys).mapError ExtractionError.path
  return ⟨xs, ys, lengths⟩

def resampledPath (e : Extractor κ) (word : String) : Except ExtractionError (List α × List α) := do
  let path : WordPath α ← e.path word
  (path.resampled e.resampling.sampleCount).mapError .resample

def vector (e : Extractor κ) (axes : List α × List α) :
    Except ExtractionError (FeatureVector α) := do
  let level := e.features.level.map Int.ofNat
  let transform : Transform α := e.features.buildTransform
  let x ← (transform.forward axes.1 level).mapError ExtractionError.transform
  let y ← (transform.forward axes.2 level).mapError ExtractionError.transform
  (FeatureVector.assemble x y e.features.coefficientCount).mapError .features

def extract (e : Extractor κ) (word : String) : Except ExtractionError (FeatureVector α) := do
  e.vector (← e.resampledPath word)

end Extractor

def extractOnce {κ α : Type} [Embeds κ α] [Zero α] [Add α] [Sub α] [Neg α] [Mul α] [Div α]
    [Scalar α] (word : String) (layout : KeyLayout κ) (features : FeatureSettings)
    (resampling : ResampleSettings) :
    Except CountError (Except ExtractionError (FeatureVector α)) := do
  return (← Extractor.ofSettings layout features resampling).extract word

end GestureLexicon
