import GestureLexicon.FileStore
import GestureLexicon.Logging.Event
import GestureLexicon.Text.UpperCase

/-!
Where log lines go. Each handler takes the events from a threshold on; a request for logging first
removes the handlers of the request before it and leaves those of other programs alone. A handler
whose file has no room keeps its lines, and if there is none yet when it is closed, the request ends
there.
-/

namespace GestureLexicon

inductive LevelError where
  | unknown (name : String)
  /-- A value of a kind that no name is. -/
  | notText (kind : String)
  /-- A name that stands for a text where a threshold is needed. -/
  | notALevel (value : String)
  /-- A name that stands for the table of line formats where a threshold is needed. -/
  | formats
  deriving DecidableEq, Repr

/-- The format of a line by default, which has a name as the thresholds do. -/
def LogEvent.lineFormat : String := "%(levelname)s:%(name)s:%(message)s"

def LogEvent.formatTable : String :=
  "\x7b'%': (<class 'logging.PercentStyle'>, '" ++ lineFormat
    ++ "'), '\x7b': (<class 'logging.StrFormatStyle'>, "
    ++ "'\x7blevelname\x7d:\x7bname\x7d:\x7bmessage\x7d'), "
    ++ "'$': (<class 'logging.StringTemplateStyle'>, "
    ++ "'$\x7blevelname\x7d:$\x7bname\x7d:$\x7bmessage\x7d')\x7d"

def LevelError.message : LevelError → String
  | unknown name => s!"module 'logging' has no attribute '{name}'"
  | notText kind => s!"'{kind}' object has no attribute 'upper'"
  | notALevel value => s!"Unknown level: '{value}'"
  | formats => "Level not an integer or a valid string: " ++ LogEvent.formatTable

namespace Severity

def threshold (name : String) : Except LevelError Nat :=
  match name with
  | "NOTSET" => .ok 0
  | "DEBUG" => .ok debug.rank
  | "INFO" => .ok info.rank
  | "WARN" | "WARNING" => .ok warning.rank
  | "ERROR" => .ok error.rank
  | "FATAL" | "CRITICAL" => .ok critical.rank
  | "BASIC_FORMAT" => .error (.notALevel LogEvent.lineFormat)
  | "_STYLES" => .error .formats
  | _ => .error (.unknown name)

def thresholdOf : Value → Except LevelError Nat
  | .text name => threshold (Text.upperCase name)
  | v => .error (.notText v.kind)

end Severity

inductive Handler where
  /-- A handler of another program, which is known by a number only. -/
  | foreign (id : Nat)
  /-- The handler of a file, and whether it holds lines that the file had no room for. -/
  | file (path : String) (least : Nat) (unwritten : Bool)
  | console (least : Nat)
  deriving DecidableEq, Repr

namespace Handler

def isForeign : Handler → Bool
  | foreign _ => true
  | _ => false

/-- A handler after an event. With the line of the event it writes all that it still holds. -/
def take (files : FileStore) (e : LogEvent) : Handler → Handler
  | file path least unwritten =>
    if least ≤ e.severity.rank then file path least (files.isFull path)
    else file path least unwritten
  | h => h

def close (files : FileStore) : Handler → Except FileFault Unit
  | file path _ true => if files.isFull path then .error .noRoom else .ok ()
  | _ => .ok ()

/-- Removes the handlers of the program itself and closes them one after another. One that cannot be
closed is removed as well, but those behind it stay. -/
def removeOwn (files : FileStore) : List Handler → List Handler × Except FileFault Unit
  | [] => ([], .ok ())
  | h :: rest =>
    if h.isForeign then
      let (left, result) := removeOwn files rest
      (h :: left, result)
    else
      match h.close files with
      | .error fault => (rest, .error fault)
      | .ok () => removeOwn files rest

end Handler

inductive LoggingFault where
  | file (fault : FileFault)
  /-- A value of a kind that no path is. -/
  | notAPath (kind : String)
  /-- A section of settings of a kind that has no fields. -/
  | notARecord (kind : String)
  | level (e : LevelError)
  deriving DecidableEq, Repr

def LoggingFault.message : LoggingFault → String
  | file fault => fault.message
  | notAPath kind => s!"expected str, bytes or os.PathLike object, not {kind}"
  | notARecord kind => s!"'{kind}' object has no attribute 'get'"
  | level e => e.message

/-- What a request for logging asks for. Without a file there is none to write to; any other value
has to be a path, and the levels have to be names. -/
structure LogRequest where
  logFile : Value := .null
  consoleLevel : Value := .text "WARNING"
  fileLevel : Value := .text "DEBUG"
  quiet : Bool := false

structure Logging where
  handlers : List Handler
  files : FileStore

namespace Logging

def initial (files : FileStore) : Logging := ⟨[], files⟩

def andThen (next : Logging → Logging × Except LoggingFault Unit) :
    Logging × Except LoggingFault Unit → Logging × Except LoggingFault Unit
  | (l, .ok ()) => next l
  | (l, .error fault) => (l, .error fault)

def cleared (l : Logging) : Logging × Except LoggingFault Unit :=
  let (handlers, result) := Handler.removeOwn l.files l.handlers
  ({ l with handlers }, result.mapError .file)

def attach (l : Logging) (h : Handler) : Logging :=
  { l with handlers := l.handlers ++ [h] }

/-- Opens the file of a request and adds its handler. The file is opened before its threshold is
looked at. -/
def withFile (l : Logging) (path : String) (level : Value) : Logging × Except LoggingFault Unit :=
  match l.files.openFile path with
  | .error fault => (l, .error (.file fault))
  | .ok files =>
    let opened := { l with files := files }
    match Severity.thresholdOf level with
    | .error e => (opened, .error (.level e))
    | .ok least => (opened.attach (.file path least false), .ok ())

def withLogFile (l : Logging) (logFile level : Value) : Logging × Except LoggingFault Unit :=
  match logFile with
  | .null => (l, .ok ())
  | .text path => l.withFile path level
  | v => (l, .error (.notAPath v.kind))

def withConsole (l : Logging) (level : Value) : Logging × Except LoggingFault Unit :=
  match Severity.thresholdOf level with
  | .error e => (l, .error (.level e))
  | .ok least => (l.attach (.console least), .ok ())

def log (l : Logging) (e : LogEvent) : Logging :=
  { l with handlers := l.handlers.map (Handler.take l.files e) }

/-- Logging after a request, and the fault that ended it early. What was removed and added up to
then stays so. -/
def configure (l : Logging) (request : LogRequest) : Logging × Except LoggingFault Unit :=
  l.cleared
    |> andThen (·.withLogFile request.logFile request.fileLevel)
    |> andThen (fun l => if request.quiet then (l, .ok ()) else l.withConsole request.consoleLevel)
    |> andThen (fun l => (l.log (.initialized request.logFile), .ok ()))

def consoleEvents (l : Logging) (events : List LogEvent) : List LogEvent :=
  l.handlers.flatMap fun
    | .console least => events.filter fun e => least ≤ e.severity.rank
    | _ => []

def fileEvents (l : Logging) (path : String) (events : List LogEvent) : List LogEvent :=
  l.handlers.flatMap fun
    | .file known least _ =>
      if Trail.ofPath known = Trail.ofPath path then
        events.filter fun e => least ≤ e.severity.rank
      else []
    | _ => []

end Logging

end GestureLexicon
