import GestureLexicon.Logging.Event

/-!
Counts of a build, taken from the events it reports.
-/

namespace GestureLexicon

structure Statistics where
  processed : Int := 0
  skipped : Int := 0
  failed : Int := 0
  cancelled : Int := 0
  wasCancelled : Bool := false
  /-- Each skipped word with the reason, in order. -/
  skippedWords : List (String × String) := []
  /-- Each failed word with the message, in order. -/
  failedWords : List (String × String) := []

namespace Statistics

def total (s : Statistics) : Int :=
  s.processed + s.skipped + s.failed

def ofEvents (events : List LogEvent) : Statistics :=
  let skippedWords := events.filterMap LogEvent.skippedWord?
  let failedWords := events.filterMap LogEvent.failedWord?
  { processed := events.countP LogEvent.isProcessed
    skipped := skippedWords.length
    failed := failedWords.length
    skippedWords, failedWords }

end Statistics

/-- The seconds between two times; none have passed while a time is unknown or zero. -/
def elapsed (start finish : Option Coordinate) : Except RangeError Float :=
  match start, finish with
  | some a, some b => if a.isZero || b.isZero then .ok 0.0 else b.difference a
  | _, _ => .ok 0.0

end GestureLexicon
