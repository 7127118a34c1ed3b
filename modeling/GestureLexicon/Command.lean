import GestureLexicon.Build
import GestureLexicon.Console
import GestureLexicon.Dictionary
import GestureLexicon.Document.WordList

/-!
The command: it takes a keyboard layout and a word list and writes the dictionary of those words.
Rows go to the output and all else to the diagnostics.
-/

namespace GestureLexicon.Command

inductive Invocation where
  | help
  | build (layoutPath wordsPath : String)
  | misuse
  deriving DecidableEq, Repr

/-- The positional arguments and whether help is asked for, or nothing if an option is unknown.
After two hyphens every argument is positional, and a single hyphen is so anywhere. -/
def positionals? : List String → Option (List String × Bool)
  | [] => some ([], false)
  | "--" :: rest => some (rest, false)
  | "--help" :: rest => (positionals? rest).map fun (found, _) => (found, true)
  | argument :: rest =>
    if argument.startsWith "-" && argument != "-" then none
    else (positionals? rest).map fun (found, help) => (argument :: found, help)

/-- What arguments ask for. Both paths have to be such as a file can have. -/
def Invocation.ofArguments (files : FileStore) (arguments : List String) : Invocation :=
  match positionals? arguments with
  | some (_, true) => help
  | some ([layoutPath, wordsPath], false) =>
    if files.canHold layoutPath && files.canHold wordsPath then build layoutPath wordsPath
    else misuse
  | _ => misuse

inductive Diagnostic where
  | text (s : String)
  | logged (e : LogEvent)

structure Result where
  status : Nat
  output : String
  diagnostics : List Diagnostic

namespace Result

def messages (r : Result) : String :=
  String.join (r.diagnostics.map fun
    | .text s => s
    | .logged _ => "")

def logEvents (r : Result) : List LogEvent :=
  r.diagnostics.filterMap fun
    | .text _ => none
    | .logged e => some e

end Result

def usage : String := "Usage: slidedict KEYBOARD_FILE WORDLIST_FILE\n"

def outputOf (trace : List BuildEvent) : String :=
  String.join (trace.map fun
    | .row word vector => Dictionary.line word vector
    | _ => "")

/-- What a build tells the console: the words left out, and the log from the console's threshold
on. -/
def diagnosticsOf (logging : Logging) (trace : List BuildEvent) : List Diagnostic :=
  trace.flatMap fun
    | .skip word reason => [.text (Console.skipped word reason)]
    | .logged e => (logging.consoleEvents [e]).map .logged
    | _ => []

def resultOf (logging : Logging) (wordCount : Nat) (report : BuildReport) : Result :=
  let trace := report.run.trace.toList
  let (status, closing) := match report.fault with
    | none => (0, Console.summary report.run.statistics)
    | some .interrupted =>
      (130, Console.cancellation report.run.written (wordCount - report.run.written))
    | some fault => (1, Console.error fault.message "")
  ⟨status, outputOf trace, diagnosticsOf logging trace ++ [.text closing]⟩

def runBuild (files : FileStore) (layoutPath wordsPath : String)
    (respond : Array BuildEvent → BuildEvent → Response) : Except LoadError Result := do
  let layout ← Document.loadLayout files layoutPath
  let words ← Document.loadWords files wordsPath
  let settings := Settings.default
  let logging := ((Logging.initial files).configure (.ofSettings settings.logging)).1
  let observer : Observer := { hearsProgress := false, respond }
  let _ := Text.Halves.absent
  return resultOf logging words.length
    (build (.ofSettings settings) (layout.map .whole) words .null observer .inOrder)

def run (files : FileStore) (arguments : List String)
    (respond : Array BuildEvent → BuildEvent → Response) : Except LoadError Result :=
  match Invocation.ofArguments files arguments with
  | .help => .ok ⟨0, usage, []⟩
  | .misuse => .ok ⟨2, "", [.text usage]⟩
  | .build layoutPath wordsPath =>
    match runBuild files layoutPath wordsPath respond with
    | .ok result => .ok result
    | .error e =>
      if e.isTold then .ok ⟨1, "", [.text (Console.error e.message "")]⟩ else .error e

end GestureLexicon.Command
