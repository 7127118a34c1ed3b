import GestureLexicon.Statistics
import GestureLexicon.Text.Columns

/-!
What a person at the console reads: words that were left out, errors, and the summary of a build.
Nothing is coloured and no line is broken.
-/

namespace GestureLexicon.Console

/-- Controls that would move the cursor: bell, backspace, vertical tab, form feed, carriage
return. -/
def isDropped (c : Char) : Bool :=
  [7, 8, 11, 12, 13].contains c.toNat

def shown (text : String) : String :=
  let kept := String.ofList (text.toList.filter fun c => !isDropped c)
  "\n".intercalate ((kept.splitOn "\n").map Text.expandTabs) ++ "\n"

/-- A word that was left out, with a reason unless that is empty. -/
def skipped (word reason : String) : String :=
  shown ("ignoring word " ++ word ++ if reason.isEmpty then "" else s!" ({reason})")

def error (message details : String) : String :=
  shown ("✗ Error: " ++ message) ++ if details.isEmpty then "" else shown ("  " ++ details)

def summary (s : Statistics) : String :=
  shown s!"✓ {s.processed} words · {s.skipped} ignored · {s.failed} errors"

def cancellation (written cancelled : Int) : String :=
  shown "· Cancelled" ++ shown s!"  {written} words written · {cancelled} words cancelled"

end GestureLexicon.Console
