import GestureLexicon.Text.FilePath

/-!
Files as a working directory holds them. Every file stands at the end of a trail, and a path is
followed to it step by step through directories that have to be there.
-/

namespace GestureLexicon

inductive FileContent where
  | bytes (content : List UInt8)
  | directory
  deriving DecidableEq

inductive FileFault where
  | missing
  | notADirectory
  | isDirectory
  | nameTooLong
  /-- A zero character, which no name can hold. -/
  | zeroInName
  /-- Something else that no name can hold. -/
  | notAName
  | noRoom
  deriving DecidableEq, Repr

/-- The steps to a place, from the working directory or from the root, which stands for itself as
the first step. Steps above the working directory stay in front as two dots. -/
abbrev Trail := List String

namespace Trail

def start (path : String) : Trail :=
  if Text.FilePath.root path == "" then [] else ["/"]

def step (t : Trail) (part : String) : Trail :=
  if part != ".." then t ++ [part]
  else match t.getLast? with
    | none | some ".." => t ++ [".."]
    | some "/" => t
    | some _ => t.dropLast

def ofPath (path : String) : Trail :=
  (Text.FilePath.parts path).foldl step (start path)

def toPath : Trail → String
  | "/" :: rest => "/" ++ "/".intercalate rest
  | t => "/".intercalate t

/-- Whether a step leads to a directory that is always there: the root, or one above. -/
def isOutward (part : String) : Bool :=
  part == "/" || part == ".."

end Trail

def FileFault.message : FileFault → String
  | missing => "no such file or directory"
  | notADirectory => "not a directory"
  | isDirectory => "is a directory"
  | nameTooLong => "file name too long"
  | zeroInName => "embedded null byte"
  | notAName => "no such name"
  | noRoom => "no space left on device"

structure FileStore where
  entries : List (Trail × FileContent)
  /-- The bytes that a character takes in a name, if a name can hold it. -/
  nameBytes? : Char → Option Nat := fun c => some c.utf8Size
  /-- The files that there is no room to write more to. -/
  full : List Trail := []

namespace FileStore

def empty : FileStore := { entries := [] }

/-- Files under the given names. Of two under one name the later counts. -/
def ofList (files : List (String × FileContent)) : FileStore :=
  { entries := (files.map fun (name, content) => (Trail.ofPath name, content)).reverse }

/-- What stands at the end of a trail. A directory is there as soon as something stands in it. -/
def at? (s : FileStore) (t : Trail) : Option FileContent :=
  match s.entries.lookup t with
  | some content => some content
  | none =>
    if t.all Trail.isOutward || s.entries.any (fun (known, _) => t.isPrefixOf known) then
      some .directory
    else none

def isFull (s : FileStore) (path : String) : Bool :=
  s.full.contains (Trail.ofPath path)

def partLimit : Nat := 255

def pathLimit : Nat := 4095

def bytesIn? (s : FileStore) (name : String) : Option Nat :=
  name.toList.foldlM (fun total c => (s.nameBytes? c).map (total + ·)) 0

def follow (s : FileStore) (t : Trail) : List String → Except FileFault Trail
  | [] => .ok t
  | part :: rest =>
    match s.at? t with
    | none => .error .missing
    | some (.bytes _) => .error .notADirectory
    | some .directory =>
      if partLimit < (s.bytesIn? part).getD 0 then .error .nameTooLong
      else s.follow (t.step part) rest

def checkPath (s : FileStore) (path : String) : Except FileFault Unit :=
  match s.bytesIn? path with
  | none => .error .notAName
  | some size =>
    if path.contains (Char.ofNat 0) then .error .zeroInName
    else if pathLimit < size then .error .nameTooLong
    else .ok ()

def canHold (s : FileStore) (path : String) : Bool :=
  (s.bytesIn? path).isSome && !path.contains (Char.ofNat 0)

def find (s : FileStore) (path : String) : Except FileFault FileContent := do
  s.checkPath (Text.FilePath.normalize path)
  match s.at? (← s.follow (Trail.start path) (Text.FilePath.parts path)) with
  | some content => return content
  | none => throw .missing

/-- The store with a file of a path open for writing. The file is made where there is none, its
directory never is. Two dots take back the step before them, whatever is there. -/
def openFile (s : FileStore) (path : String) : Except FileFault FileStore := do
  let target := Trail.ofPath path
  s.checkPath target.toPath
  let (outward, parts) := target.span Trail.isOutward
  let t ← s.follow outward parts
  match s.at? t with
  | some .directory => throw .isDirectory
  | some (.bytes _) => return s
  | none => return { s with entries := (t, .bytes []) :: s.entries }

end FileStore

end GestureLexicon
