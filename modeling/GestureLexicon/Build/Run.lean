import GestureLexicon.Build.Chunk
import GestureLexicon.Statistics

/-!
The course of a build: a trace of all it made known, up to an interruption. An observer hears each
event and can end the build there, before the event takes place or after it.
-/

namespace GestureLexicon

inductive BuildEvent where
  | row (word : String) (vector : FeatureVector Float)
  | skip (word reason : String)
  | progress (done total : Nat)
  | logged (e : LogEvent)
  /-- What a worker beside the build logs, which does not reach the build's own console. -/
  | loggedAside (e : LogEvent)

namespace BuildEvent

def isRow : BuildEvent → Bool
  | row .. => true
  | _ => false

def logEvent? : BuildEvent → Option LogEvent
  | logged e => some e
  | _ => none

def fileEvent? : BuildEvent → Option LogEvent
  | logged e | loggedAside e => some e
  | _ => none

end BuildEvent

inductive Response where
  | proceed
  /-- The event does not take place and the build ends. -/
  | refuse
  /-- The event takes place and the build ends. -/
  | interrupt
  deriving DecidableEq, Repr

/-- Who follows a build. The response to an event may depend on all that came before it. -/
structure Observer where
  hearsSkips : Bool := true
  hearsProgress : Bool := true
  respond : Array BuildEvent → BuildEvent → Response := fun _ _ => .proceed

namespace Observer

def hears (o : Observer) : BuildEvent → Bool
  | .skip .. => o.hearsSkips
  | .progress .. => o.hearsProgress
  | _ => true

end Observer

structure Run where
  trace : Array BuildEvent
  done : Nat
  interrupted : Bool
  /-- The number of words left without an outcome, once that was counted. -/
  cancelled : Option Nat
  /-- The number of rows as their writer counts them. -/
  written : Nat

namespace WordResult

/-- What a word's result makes known: a row is written before it is logged, any other outcome is
logged before it is told. -/
def events : WordResult → List BuildEvent
  | ⟨word, .row vector⟩ => [.row word vector, .logged (.processed word)]
  | ⟨word, .skipped reason⟩ => [.logged (.skipped word reason), .skip word reason]
  | ⟨word, .failed message⟩ => [.logged (.failed word message), .skip word message]

end WordResult

namespace Run

def start : Run := ⟨#[], 0, false, none, 0⟩

/-- An event takes place. The writer counts each row behind the ones before it. -/
def take (r : Run) (e : BuildEvent) : Run :=
  { r with trace := r.trace.push e, written := if e.isRow then r.written + 1 else r.written }

/-- One more event, unless the build has ended or nobody hears it. -/
def tell (o : Observer) (r : Run) (e : BuildEvent) : Run :=
  if r.interrupted || !o.hears e then r
  else
    match o.respond r.trace e with
    | .proceed => r.take e
    | .refuse => { r with interrupted := true }
    | .interrupt => { r.take e with interrupted := true }

def tellAll (o : Observer) (r : Run) (events : List BuildEvent) : Run :=
  events.foldl (tell o) r

/-- What a worker logged while it processed a chunk. Nobody can end the build there. -/
def overhear (r : Run) (log : List LogEvent) : Run :=
  { r with trace := r.trace ++ (log.map .loggedAside).toArray }

def emit (o : Observer) (total : Nat) (r : Run) (results : List WordResult) : Run :=
  let told := r.tellAll o (results.flatMap WordResult.events)
  let done := r.done + results.length
  { told with done := done }.tell o (.progress done total)

def logEvents (r : Run) : List LogEvent :=
  r.trace.toList.filterMap BuildEvent.logEvent?

def statistics (r : Run) : Statistics :=
  { Statistics.ofEvents r.logEvents with
    cancelled := (r.cancelled.getD 0 : Nat), wasCancelled := r.cancelled.isSome }

end Run

end GestureLexicon
