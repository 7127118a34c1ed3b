import GestureLexicon.Document.Error
import GestureLexicon.FileStore
import GestureLexicon.KeyLayout
import GestureLexicon.Markup.Element
import GestureLexicon.Text.WholeNumber

/-!
Keyboard layouts as documents. The root element gives the size of a key; every row element, wherever
it stands, is a row, and every key element inside it, wherever that stands, is a key of that row.
-/

namespace GestureLexicon.Document
open Markup

/-- A whole number that an element gives as an attribute; `default` stands in for an absent one. -/
def number (e : Element) (name : String) (default : Option Int) :
    Except NumberFault Int :=
  match e.valueOf? name with
  | some value =>
    match Text.WholeNumber.read? value with
    | some n => .ok n
    | none => .error (.notWhole e.tag name value)
  | none =>
    match default with
    | some n => .ok n
    | none => .error (.missing e.tag name)

def row (e : Element) : Except NumberFault LayoutRow := do
  let keys := (e.named "key").map fun key => (key.valueOf? "char").getD ""
  return ⟨keys, ← number e "offset" (some 0)⟩

def layout (root : Element) : Except NumberFault (KeyLayout Int) := do
  let keyWidth ← number root "keyWidth" none
  let keyHeight ← number root "keyHeight" none
  let rows ← (root.named "row").mapM row
  return .ofRows rows keyWidth keyHeight

def contents (store : FileStore) (path : String) : Except LoadCause (List UInt8) :=
  match store.find path with
  | .ok (.bytes content) => .ok content
  | .ok .directory => .error (.isDirectory (Text.FilePath.normalize path))
  | .error .nameTooLong => .error .nameTooLong
  | .error _ => .error .notFound

def root (store : FileStore) (path : String) : Except LoadCause Element := do
  (document (← contents store path)).mapError .markup

def loadLayout (store : FileStore) (path : String) : Except LoadError (KeyLayout Int) :=
  ((root store path).bind fun e => (layout e).mapError .number).mapError fun cause =>
    ⟨.layout, Text.FilePath.normalize path, cause⟩

end GestureLexicon.Document
