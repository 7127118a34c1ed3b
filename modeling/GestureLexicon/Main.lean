import GestureLexicon.Command
import GestureLexicon.Logging.Line

/-!
The command line: arguments and files are read, the command runs, and what it tells is printed.
-/

namespace GestureLexicon.Command

/-- What stands under a path: whatever is there and cannot be read counts as a directory. -/
def contentAt (path : String) : IO (Option FileContent) := do
  match ← (IO.FS.readBinFile path).toBaseIO with
  | .ok content => return some (.bytes content.toList)
  | .error (.noFileOrDirectory ..) => return none
  | .error _ => return some .directory

def pathsOn (path : String) : List String :=
  let parts := Text.FilePath.parts path
  (List.range (parts.length + 1)).map fun n =>
    Text.FilePath.normalize (Text.FilePath.root path ++ "/".intercalate (parts.take n))

def filesOf (arguments : List String) : IO FileStore := do
  let found ← (arguments.flatMap pathsOn).filterMapM fun path => do
    return (← contentAt path).map fun content => (path, content)
  return .ofList found

end GestureLexicon.Command

open GestureLexicon in
def main (arguments : List String) : IO UInt32 := do
  match Command.run (← Command.filesOf arguments) arguments fun _ _ => .proceed with
  | .error _ => return 1
  | .ok result =>
    IO.print result.output
    for diagnostic in result.diagnostics do
      match diagnostic with
      | .text s => IO.eprint s
      | .logged e => IO.eprintln e.line
    return result.status.toUInt32
