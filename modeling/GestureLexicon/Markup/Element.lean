import GestureLexicon.Markup.Token

/-!
Documents as trees of elements. Names are resolved to the spaces that the elements around them bind
to their qualifiers, and of the text inside an element only what stands before its first child is
kept.
-/

namespace GestureLexicon.Markup

inductive Element where
  | mk (tag : String) (attributes : List (String × String)) (text : String)
    (children : List Element)

namespace Element

def tag : Element → String
  | mk tag _ _ _ => tag

def valueOf? : Element → String → Option String
  | mk _ attributes _ _, name => attributes.lookup name

def text : Element → String
  | mk _ _ text _ => text

mutual

def withDescendants : Element → List Element
  | mk tag attributes text children => mk tag attributes text children :: descendantsOf children

def descendantsOf : List Element → List Element
  | [] => []
  | child :: rest => child.withDescendants ++ descendantsOf rest

end

def named (e : Element) (tag : String) : List Element :=
  e.withDescendants.filter (·.tag == tag)

end Element

/-- Which space a qualifier stands for, the innermost binding first; no qualifier has the
default. -/
abbrev Scope := List (Option String × String)

namespace Scope

def reservedSpace : String := "http://www.w3.org/XML/1998/namespace"

def bindingSpace : String := "http://www.w3.org/2000/xmlns/"

def initial : Scope := [(some "xml", reservedSpace)]

def bound? (name : Name) : Option (Option String) :=
  match name.qualifier with
  | none => if name.base == "xmlns" then some none else none
  | some "xmlns" => some (some name.base)
  | some _ => none

/-- Binds a qualifier. The two reserved qualifiers and spaces keep to themselves, and only the
default can be bound to nothing. -/
def bind (scope : Scope) (qualifier : Option String) (space : String) :
    Except MarkupError Scope := do
  if space.isEmpty && qualifier.isSome then throw .malformed
  if qualifier == some "xmlns" || space == bindingSpace then throw .malformed
  if (qualifier == some "xml") != (space == reservedSpace) then throw .malformed
  if space.contains '\x7d' then throw .malformed
  return (qualifier, space) :: scope

def inSpace (space base : String) : String :=
  "\x7b" ++ space ++ "\x7d" ++ base

/-- The full name of an element, for which no qualifier means the default space. -/
def elementName (scope : Scope) (name : Name) : Except MarkupError String :=
  match name.qualifier, List.lookup name.qualifier scope with
  | none, none => .ok name.base
  | none, some "" => .ok name.base
  | _, some space => .ok (inSpace space name.base)
  | some _, none => .error .malformed

/-- The full name of an attribute, which without a qualifier is in no space. -/
def attributeName (scope : Scope) (name : Name) : Except MarkupError String :=
  match name.qualifier with
  | none => .ok name.base
  | some _ => scope.elementName name

end Scope

structure Frame where
  name : Name
  tag : String
  attributes : List (String × String)
  scope : Scope
  text : List Char
  children : List Element

/-- What has been read of a document: the open elements, the innermost first. -/
structure Reading where
  frames : List Frame
  root : Option Element
  typed : Bool

namespace Reading

def start : Reading := ⟨[], none, false⟩

def scope (r : Reading) : Scope :=
  match r.frames with
  | frame :: _ => frame.scope
  | [] => Scope.initial

def enter (r : Reading) (name : Name) (attributes : List (Name × String)) :
    Except MarkupError Reading := do
  if r.frames.isEmpty && r.root.isSome then throw .malformed
  if !(attributes.map Prod.fst).Nodup then throw .malformed
  let bindings := attributes.filterMap fun (known, value) =>
    (Scope.bound? known).map fun qualifier => (qualifier, value)
  let scope ← bindings.foldlM (fun scope (qualifier, space) => scope.bind qualifier space) r.scope
  let plain ← (attributes.filter fun (known, _) => (Scope.bound? known).isNone).mapM
    fun (known, value) => do return (← scope.attributeName known, value)
  if !(plain.map Prod.fst).Nodup then throw .malformed
  return { r with frames := ⟨name, ← scope.elementName name, plain, scope, [], []⟩ :: r.frames }

def leave (r : Reading) : Except MarkupError Reading :=
  match r.frames with
  | [] => .error .malformed
  | frame :: outer =>
    let element := Element.mk frame.tag frame.attributes (.ofList frame.text) frame.children.reverse
    match outer with
    | [] => .ok { r with frames := [], root := some element }
    | parent :: others =>
      .ok { r with frames := { parent with children := element :: parent.children } :: others }

/-- Text inside the innermost element, kept if no child stands before it. -/
def addText (r : Reading) (cs : List Char) : Except MarkupError Reading :=
  match r.frames with
  | [] => .error .malformed
  | frame :: outer =>
    if frame.children.isEmpty then
      .ok { r with frames := { frame with text := frame.text ++ cs } :: outer }
    else .ok r

/-- Reads one more token. Outside the root only white space, asides and one type are allowed. -/
def step (r : Reading) : Token → Except MarkupError Reading
  | .startTag name attributes closed => do
    let inside ← r.enter name attributes
    if closed then inside.leave else return inside
  | .endTag name =>
    if (r.frames.head?.map Frame.name) == some name then r.leave else .error .malformed
  | .text raw =>
    if r.frames.isEmpty then if raw.all isSpace then .ok r else .error .malformed
    else (Token.resolved raw).bind r.addText
  | .literal cs => r.addText cs
  | .doctype =>
    if r.frames.isEmpty && r.root.isNone && !r.typed then .ok { r with typed := true }
    else .error .malformed
  | .aside => .ok r

end Reading

def document (bytes : List UInt8) : Except MarkupError Element := do
  let (encoding, cs) ← decode bytes
  let tokens ← Token.all encoding.signs cs
  let r ← tokens.foldlM Reading.step Reading.start
  match r.frames, r.root with
  | [], some root => return root
  | _, _ => throw .malformed

end GestureLexicon.Markup
