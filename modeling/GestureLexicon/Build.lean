import GestureLexicon.Build.Sequencer
import GestureLexicon.Logging
import GestureLexicon.Settings.Draft

/-!
Building a dictionary: the words are cut into chunks, each chunk is processed, and the outcomes are
made known in the order of the words. One worker takes the chunks one by one; several workers take
them side by side.
-/

namespace GestureLexicon

inductive BuildFault where
  | interrupted
  | chunk (fault : ChunkFault)
  | chunkSizeZero
  /-- A chunk size or a number of workers of a kind that is not whole. -/
  | notWhole (kind : String)
  | noWorkers
  | workersUnordered (kind : String)
  | tooManyWorkers
  | missing (e : MissingSetting)
  | passing (e : PassingError)
  deriving DecidableEq, Repr

def BuildFault.message : BuildFault → String
  | interrupted => ""
  | chunk fault => fault.message
  | chunkSizeZero => "range() arg 3 must not be zero"
  | notWhole kind => s!"'{kind}' object cannot be interpreted as an integer"
  | noWorkers => "max_workers must be greater than 0"
  | workersUnordered kind => s!"'<=' not supported between instances of '{kind}' and 'int'"
  | tooManyWorkers => "Python int too large to convert to C int"
  | missing e => e.message
  | passing e => e.message

structure BuildReport where
  run : Run
  fault : Option BuildFault

namespace Build

/-- The whole number that a value stands for; truth values count as one and zero. -/
def wholeOf : Value → Except BuildFault Int
  | .number (.whole n) => .ok n
  | .boolean b => .ok (if b then 1 else 0)
  | v => .error (.notWhole v.kind)

/-- Words in chunks of a size. A negative size gives no chunk at all. -/
def chunked (size : Value) (words : List String) : Except BuildFault (List (List String)) := do
  let n ← wholeOf size
  if n = 0 then throw .chunkSizeZero
  return blocks n.toNat words

def isOne : Value → Bool
  | .number (.whole n) => n == 1
  | .number (.real x) => x == 1.0
  | .boolean b => b
  | _ => false

def mostWorkers : Nat := 2147483646

/-- Whether several workers can be had. Their number may be left open. Processes for them are taken
as granted up to the most that can be counted. -/
def checkWorkers : Value → Except BuildFault Unit
  | .null => .ok ()
  | .boolean b => if b then .ok () else .error .noWorkers
  | .number (.whole n) =>
    if n < 1 then .error .noWorkers
    else if (mostWorkers : Int) < n then .error .tooManyWorkers
    else .ok ()
  | .number (.real x) => .error (if x ≤ 0.0 then .noWorkers else .notWhole "float")
  | v => .error (.workersUnordered v.kind)

def inline (o : Observer) (total : Nat) (process : List String → Except ChunkFault ChunkReport) :
    List (List String) → Run → BuildReport
  | [], run => ⟨run, none⟩
  | chunk :: rest, run =>
    match process chunk with
    | .error fault => ⟨run, some (.chunk fault)⟩
    | .ok report =>
      let run := (run.tellAll o (report.log.map .logged)).emit o total report.results
      if run.interrupted then ⟨run, some .interrupted⟩ else inline o total process rest run

/-- Several workers take the chunks side by side. Handing a chunk to them never fails. -/
def parallel (o : Observer) (total : Nat) (process : List String → Except ChunkFault ChunkReport)
    (workers : Value) (schedule : Schedule) (chunks : List (List String)) (run : Run) :
    BuildReport :=
  match checkWorkers workers with
  | .error fault => ⟨run, some fault⟩
  | .ok () =>
    let run := Sequencer.process o total process chunks (schedule chunks.length) run
    ⟨run, if run.interrupted then some .interrupted else none⟩

def workersOf (draft : Draft) : Value → Except BuildFault Value
  | .null => (draft.get .processing "max_workers").mapError .missing
  | given => .ok given

def plan [Text.Halves] (draft : Draft) (words : List String) :
    Except BuildFault (List (List String) × List (String × Value)) := do
  let size ← (draft.get .processing "chunk_size").mapError .missing
  let chunks ← chunked size words
  return (chunks, ← draft.dump.mapError .passing)

def finish (o : Observer) (report : BuildReport) : BuildReport :=
  match report.fault with
  | some _ => report
  | none =>
    let s := report.run.statistics
    let run := report.run.tell o (.logged (.completed s.processed s.skipped s.failed))
    ⟨run, if run.interrupted then some .interrupted else none⟩

end Build

def LogRequest.ofSettings (s : LoggingSettings) : LogRequest where
  logFile := (s.logFile.map Value.text).getD .null
  consoleLevel := .text s.logLevel
  fileLevel := .text s.fileLogLevel

def Draft.logRequest (d : Draft) : Except MissingSetting LogRequest := do
  let logFile ← d.get .logging "log_file"
  let consoleLevel ← d.get .logging "log_level"
  let fileLevel ← d.get .logging "file_log_level"
  return { logFile, consoleLevel, fileLevel }

def LogRequest.ofSections (sections : List (String × Value)) : Except LoggingFault LogRequest :=
  match (Value.field? sections SettingsSection.logging.name).getD (.record []) with
  | .record fields => .ok (match Value.field? fields "log_level" with
    | some level => { consoleLevel := level }
    | none => {})
  | v => .error (.notARecord v.kind)

/-- Builds the dictionary of a list of words. `maxWorkers` stands before the settings' own number,
and `schedule` tells in which order chunks processed side by side arrive. -/
def build [Text.Halves] (draft : Draft) (layout : KeyLayout Coordinate) (words : List String)
    (maxWorkers : Value) (o : Observer) (schedule : Schedule) : BuildReport :=
  match Build.workersOf draft maxWorkers with
  | .error fault => ⟨Run.start, some fault⟩
  | .ok workers =>
    let total := words.length
    let run := Run.start.tell o (.logged (.started total layout.size workers))
    if run.interrupted then ⟨run, some .interrupted⟩
    else
      match Build.plan draft words with
      | .error fault => ⟨run, some fault⟩
      | .ok (chunks, sections) =>
        let process (chunk : List String) := processChunk chunk layout.toRecord sections
        Build.finish o (
          if Build.isOne workers || chunks.length ≤ 1 then Build.inline o total process chunks run
          else Build.parallel o total process workers schedule chunks run)

end GestureLexicon
