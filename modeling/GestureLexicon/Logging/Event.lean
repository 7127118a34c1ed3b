import GestureLexicon.Settings.Value

/-!
What a build reports while it runs: each event with its severity, its source and its fields.
-/

namespace GestureLexicon

inductive Severity where
  | debug
  | info
  | warning
  | error
  | critical
  deriving DecidableEq, Repr

namespace Severity

def rank : Severity → Nat
  | debug => 10
  | info => 20
  | warning => 30
  | error => 40
  | critical => 50

def name : Severity → String
  | debug => "debug"
  | info => "info"
  | warning => "warning"
  | error => "error"
  | critical => "critical"

end Severity

inductive LogEvent where
  | initialized (logFile : Value)
  | started (words keys : Nat) (maxWorkers : Value)
  | path (word : String) (points : Nat) (length : Float)
  | processed (word : String)
  | skipped (word reason : String)
  | failed (word message : String)
  | cancellation
  | completed (rows skips failures : Int)

namespace LogEvent

def severity : LogEvent → Severity
  | initialized _ => .debug
  | started .. => .info
  | path .. => .debug
  | processed _ => .debug
  | skipped .. => .info
  | failed .. => .error
  | cancellation => .info
  | completed .. => .info

def title : LogEvent → String
  | initialized _ => "Logging initialized"
  | started .. => "Starting dictionary build"
  | path .. => "Word path"
  | processed _ => "Word processed"
  | skipped .. => "Word skipped"
  | failed .. => "Word processing failed"
  | cancellation => "Cancellation requested by user"
  | completed .. => "Dictionary build complete"

def source : LogEvent → String
  | path .. => "slidedict.core.extractor"
  | _ => "slidedict"

def fields : LogEvent → List (String × Value)
  | initialized logFile => [("log_file", logFile)]
  | started words keys maxWorkers =>
    [("words", .whole words), ("keys", .whole keys), ("max_workers", maxWorkers)]
  | path word points length =>
    [("word", .text word), ("points", .whole points), ("length", .number (.real length))]
  | processed word => [("word", .text word)]
  | skipped word reason => [("word", .text word), ("reason", .text reason)]
  | failed word message =>
    [("word", .text word), ("error", .text message), ("error_type", .text "Exception"),
     ("traceback", .boolean true)]
  | cancellation => []
  | completed rows skips failures =>
    [("processed", .whole rows), ("skipped", .whole skips), ("errors", .whole failures)]

def record (e : LogEvent) : List (String × Value) :=
  e.fields ++
    [("event", .text e.title), ("logger", .text e.source), ("level", .text e.severity.name)]

def isProcessed : LogEvent → Bool
  | processed _ => true
  | _ => false

def skippedWord? : LogEvent → Option (String × String)
  | skipped word reason => some (word, reason)
  | _ => none

def failedWord? : LogEvent → Option (String × String)
  | failed word message => some (word, message)
  | _ => none

end LogEvent

end GestureLexicon
