import GestureLexicon.Settings
import GestureLexicon.Settings.Member
import GestureLexicon.Settings.Passing

/-!
Drafts of settings: fields are assigned after the check, so that any of them may hold any value.
Every chunk of words checks the first two sections again.
-/

namespace GestureLexicon

structure SectionDraft where
  fields : List (String × Value)
  /-- What the record of assigned fields was replaced by, if it was. -/
  record : Option Value := none
  /-- What stands in for fields that are absent. -/
  extra : Value := .null
  assigned : List String := []

structure Draft where
  resample : SectionDraft
  features : SectionDraft
  processing : SectionDraft
  logging : SectionDraft

inductive AssignError where
  | noSection (name : String)
  /-- A name that the settings know, for something without fields to assign to. -/
  | notASection (fault : Settings.MemberFault)
  /-- A name that only the type of the settings knows. -/
  | ofType (name : String)
  | noField (part : SettingsSection) (name : String)
  /-- A field that follows from the others. -/
  | derived (part : SettingsSection) (name : String)
  | fixed (part : SettingsSection) (name : String)
  /-- A value that cannot take the place of a section's type. -/
  | notAType (kind : String)
  /-- A value that cannot take the place of all fields of a section. -/
  | notFields (kind : String)
  /-- A value that cannot take the place of what assigns fields, or of the record of them. -/
  | lacking (kind operation : String)
  | notCallable (kind : String)
  deriving DecidableEq, Repr

def AssignError.message [Text.Halves] : AssignError → String
  | noSection name =>
    "'SlideDictSettings' object has no attribute " ++ Text.quotedBy Text.Halves.code name
  | notASection fault => fault.message
  | ofType name => s!"'{name}' attribute of 'SlideDictSettings' is class-only"
  | noField part name => s!"\"{part.title}\" object has no field \"{name}\""
  | derived part name => s!"property '{name}' of '{part.title}' object has no setter"
  | fixed part name => s!"attribute '{name}' of '{part.title}' objects is not writable"
  | notAType kind => s!"__class__ must be set to a class, not '{kind}' object"
  | notFields kind => s!"__dict__ must be set to a dictionary, not a '{kind}'"
  | lacking kind operation => s!"'{kind}' object has no attribute '{operation}'"
  | notCallable kind => s!"'{kind}' object is not callable"

/-- A field that a section lacks, once all its fields were replaced. -/
structure MissingSetting where
  part : SettingsSection
  name : String
  deriving DecidableEq, Repr

def MissingSetting.message (e : MissingSetting) : String :=
  s!"'{e.part.title}' object has no attribute '{e.name}'"

namespace SectionDraft

def withField (d : SectionDraft) (name : String) (v : Value) : SectionDraft :=
  let fields :=
    if (Value.field? d.fields name).isNone then d.fields ++ [(name, v)]
    else d.fields.map fun (known, old) => (known, if known = name then v else old)
  { d with fields }

/-- Refuses an assignment if what assigns fields was replaced by something that cannot. -/
def checkAssigns (d : SectionDraft) (name : String) : Except AssignError Unit := do
  match Value.field? d.fields "__pydantic_setattr_handlers__" with
  | none => pure ()
  | some (.record handlers) =>
    match Value.field? handlers name with
    | none | some .null => pure ()
    | some v => throw (.notCallable v.kind)
  | some v => throw (.lacking v.kind "get")
  match Value.field? d.fields "_setattr_handler" with
  | some v => if d.assigned.contains name then return else throw (.notCallable v.kind)
  | none => return

def assignField (d : SectionDraft) (name : String) (v : Value) : Except AssignError SectionDraft :=
  match d.record with
  | some other => .error (.lacking other.kind "add")
  | none => .ok { d.withField name v with assigned := name :: d.assigned }

/-- Assigns under a name that starts with an underscore. Few of these have a meaning, and a value
under any other is kept without being a setting. -/
def assignReserved (d : SectionDraft) (part : SettingsSection) (name : String) (v : Value) :
    Except AssignError SectionDraft :=
  match name, v with
  | "__dict__", .record fields => .ok { d with fields }
  | "__dict__", v => .error (.notFields v.kind)
  | "__class__", v => .error (.notAType v.kind)
  | "__weakref__", _ => .error (.fixed part name)
  | "__pydantic_fields_set__", v => .ok { d with record := some v }
  | "__pydantic_extra__", v => .ok { d with extra := v }
  | "__pydantic_private__", _ => .ok d
  | _, v => .ok (d.withField name v)

def assign (d : SectionDraft) (part : SettingsSection) (name : String) (v : Value) :
    Except AssignError SectionDraft := do
  d.checkAssigns name
  if part.derivedNames.contains name then throw (.derived part name)
  else if name.startsWith "_" then d.assignReserved part name v
  else if part.fieldNames.contains name then d.assignField name v
  else throw (.noField part name)

def get? (d : SectionDraft) (name : String) : Option Value :=
  match Value.field? d.fields name, d.extra with
  | some v, _ => some v
  | none, .record others => Value.field? others name
  | none, _ => none

end SectionDraft

namespace Draft
variable [Text.Halves]

def ofSettings (s : Settings) : Draft where
  resample := { fields := s.resample.dump }
  features := { fields := s.features.dump }
  processing := { fields := s.processing.dump }
  logging := { fields := s.logging.dump }

def part (d : Draft) : SettingsSection → SectionDraft
  | .resample => d.resample
  | .features => d.features
  | .processing => d.processing
  | .logging => d.logging

def withPart (d : Draft) (part : SettingsSection) (draft : SectionDraft) : Draft :=
  match part with
  | .resample => { d with resample := draft }
  | .features => { d with features := draft }
  | .processing => { d with processing := draft }
  | .logging => { d with logging := draft }

def assign (d : Draft) (sectionName name : String) (v : Value) : Except AssignError Draft :=
  match SettingsSection.ofName? sectionName, Settings.memberKind? sectionName with
  | some part, _ => ((d.part part).assign part name v).map (d.withPart part)
  | none, some kind => match Settings.memberFault? kind name v.kind with
    | some fault => .error (.notASection fault)
    | none => .ok d
  | none, none => match sectionName with
    | "__class__" => .ok d
    | "__signature__" => .error (.ofType sectionName)
    | _ => .error (.noSection sectionName)

def get (d : Draft) (part : SettingsSection) (name : String) : Except MissingSetting Value :=
  match (d.part part).get? name with
  | some v => .ok v
  | none => .error ⟨part, name⟩

/-- A field's value as it is handed on. Where a number is asked for, a truth value counts as one. -/
def passedField (part : SettingsSection) (name : String) (v : Value) : Except PassingError Value :=
  match v with
  | .boolean b =>
    .ok (if part.wholeNames.contains name then .whole (if b then 1 else 0) else .boolean b)
  | v => v.passed

def passedSection (d : Draft) (part : SettingsSection) :
    Except PassingError (List (String × Value)) :=
  (d.part part).fields.filterMapM fun (name, v) => do
    Value.checkName name
    if part.fieldNames.contains name then return some (name, ← passedField part name v)
    else return none

/-- The sections that a chunk of words is processed with. The others have to be fit for handing on
too. -/
def dump (d : Draft) : Except PassingError (List (String × Value)) := do
  let resample ← d.passedSection .resample
  let features ← d.passedSection .features
  let _ ← d.passedSection .processing
  let _ ← d.passedSection .logging
  return [("resample", .record resample), ("features", .record features)]

end Draft

end GestureLexicon
