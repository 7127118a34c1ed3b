import GestureLexicon.Decimal
import GestureLexicon.FeatureVector

/-!
Dictionary text: one line per word, holding the word and its numbers with tabs between them.
-/

namespace GestureLexicon.Dictionary

/-- Numbers with three places and tabs between them, or a dash where there are none. -/
def parameters : List Float → String
  | [] => "-"
  | values => "\t".intercalate (values.map Decimal.fixed)

def row (word : String) (vector : FeatureVector Float) : String :=
  word ++ "\t" ++ parameters vector.values

def line (word : String) (vector : FeatureVector Float) : String :=
  row word vector ++ "\n"

end GestureLexicon.Dictionary
