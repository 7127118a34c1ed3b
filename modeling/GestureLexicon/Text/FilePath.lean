/-!
File paths as texts. A path is normal when no part of it is empty or a single dot.
-/

namespace GestureLexicon.Text.FilePath

def parts (path : String) : List String :=
  (path.splitOn "/").filter fun part => part != "" && part != "."

/-- The slashes a path starts with: exactly two are kept, else one stands for all. -/
def root (path : String) : String :=
  match path.toList.takeWhile (· == '/') with
  | [] => ""
  | ['/', '/'] => "//"
  | _ => "/"

def normalize (path : String) : String :=
  match root path ++ "/".intercalate (parts path) with
  | "" => "."
  | text => text

def fileName (path : String) : String :=
  (parts path).getLastD ""

/-- A file name's extension with its dot. A dot at either end of the name starts none. -/
def extension (name : String) : String :=
  let backward := name.toList.reverse
  let tail := backward.takeWhile (· != '.')
  let stem := backward.drop (tail.length + 1)
  if tail.length < backward.length && !tail.isEmpty && !stem.isEmpty then
    .ofList ('.' :: tail.reverse)
  else ""

end GestureLexicon.Text.FilePath
