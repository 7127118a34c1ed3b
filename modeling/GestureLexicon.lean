import GestureLexicon.Main
import GestureLexicon.Transform.Nested
import GestureLexicon.Proofs.Steps
import GestureLexicon.Proofs.LineTransform
import GestureLexicon.Proofs.FilterBank
import GestureLexicon.Proofs.NamedWavelets
import GestureLexicon.Proofs.Reconstruction
import GestureLexicon.Proofs.RoundTrip
import GestureLexicon.Proofs.Extraction
import GestureLexicon.Proofs.Course
import GestureLexicon.Proofs.Sequencing
import GestureLexicon.Proofs.BuildOrder
import GestureLexicon.Proofs.Cancellation
import GestureLexicon.Proofs.Interruption
import GestureLexicon.Proofs.Written
import GestureLexicon.Proofs.Assignment
import GestureLexicon.Proofs.ChunkSize
import GestureLexicon.Proofs.DictionaryText
import GestureLexicon.Proofs.FirstChunks
import GestureLexicon.Proofs.Axes
import GestureLexicon.Proofs.Isometry
import GestureLexicon.Proofs.InnerProduct
import GestureLexicon.Proofs.CursorWalk
import GestureLexicon.Proofs.Resampling
import GestureLexicon.Proofs.Reversal
import GestureLexicon.Proofs.HaarPyramid
import GestureLexicon.Proofs.Composition
import GestureLexicon.Proofs.Interpolation
import GestureLexicon.Proofs.Linearity
import GestureLexicon.Proofs.Spelling
import GestureLexicon.Proofs.Acceptance
import GestureLexicon.Proofs.AxisOrder
import GestureLexicon.Proofs.MovedKeys
import GestureLexicon.Proofs.Exponents
import GestureLexicon.Proofs.SampleBounds
import GestureLexicon.Proofs.Insertion
import GestureLexicon.Proofs.Parts
import GestureLexicon.Proofs.Refiltering
import GestureLexicon.Proofs.Wrapping
import GestureLexicon.Proofs.Refusals
import GestureLexicon.Proofs.FirstAxis
import GestureLexicon.Proofs.KeyCentres
import GestureLexicon.Proofs.LeadingSums
import GestureLexicon.Proofs.ConstantSignals
import GestureLexicon.Proofs.RepeatedKey
import GestureLexicon.Proofs.Doubles
import GestureLexicon.Proofs.WholeDoubles
import GestureLexicon.Proofs.Segments
import GestureLexicon.Proofs.Thousandths
import GestureLexicon.Proofs.Endings
import GestureLexicon.Proofs.CancelledWords
import GestureLexicon.Proofs.LogHandlers
import GestureLexicon.Proofs.LogRequests
import GestureLexicon.Proofs.FullBands
