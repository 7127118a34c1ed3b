import GestureLexicon.Settings.Display
import GestureLexicon.Text.Blank
import GestureLexicon.Text.FilePath

/-!
Checking setting values. A check reads a value as the type a field needs or says what is wrong with
it; the checks of several fields all run, and their complaints are listed in the order of the
fields.
-/

namespace GestureLexicon

inductive Complaint where
  | belowLeast (least : Nat)
  | aboveGreatest (greatest : Nat)
  | notWhole
  | notDecimalDigits
  | tooManyDigits
  | fractional
  | notFinite
  | notAChoice (choices : List String)
  | notText
  /-- A text with something in it that is no character. -/
  | notCharacters
  | notAPath
  | notASection
  | inconsistent (message : String)
  deriving DecidableEq, Repr

def Complaint.name : Complaint → String
  | belowLeast _ => "greater_than_equal"
  | aboveGreatest _ => "less_than_equal"
  | notWhole => "int_type"
  | notDecimalDigits => "int_parsing"
  | tooManyDigits => "int_parsing_size"
  | fractional => "int_from_float"
  | notFinite => "finite_number"
  | notAChoice _ => "enum"
  | notText => "string_type"
  | notCharacters => "string_unicode"
  | notAPath => "path_type"
  | notASection => "model_type"
  | inconsistent _ => "value_error"

/-- A complaint, the names that lead to the field it is about, and the value of that field as it is
shown, with its kind. -/
structure Finding where
  location : List String
  complaint : Complaint
  shown : String
  kind : String
  deriving DecidableEq, Repr

def Complaint.about [Text.Halves] (complaint : Complaint) (location : List String) (v : Value) :
    Finding :=
  ⟨location, complaint, v.shown, v.kind⟩

/-- A checked value, or all that was found wrong. -/
abbrev Checked (β : Type) := Except (List Finding) β

namespace Checked
variable {β γ : Type}

/-- Applies a checked function to a checked value and keeps the findings of both. -/
def apply (f : Checked (β → γ)) (x : Checked β) : Checked γ :=
  match f, x with
  | .ok f, .ok x => .ok (f x)
  | .ok _, .error found => .error found
  | .error found, .ok _ => .error found
  | .error found, .error more => .error (found ++ more)

def within (name : String) (x : Checked β) : Checked β :=
  x.mapError (List.map fun finding => { finding with location := name :: finding.location })

end Checked

namespace Check
variable [Text.Halves]

def startsNumber (c : Char) : Bool :=
  c == '-' || ('1' ≤ c && c ≤ '9')

/-- What is left after zeros and underscores in front, of which `last` is the last one passed over.
It stands for all of them where nothing else or a point follows. -/
def pastZeros? (last : Char) : List Char → Option (List Char)
  | [] => some [last]
  | c :: rest =>
    if c == '0' || c == '_' then pastZeros? c rest
    else if startsNumber c then some (c :: rest)
    else if c == '.' then some (last :: c :: rest)
    else none

def withoutZeros? : List Char → Option (List Char)
  | [] => none
  | c :: rest =>
    if c == '0' then pastZeros? c rest
    else if startsNumber c then some (c :: rest)
    else none

def withoutZeroPlaces (cs : List Char) : List Char :=
  match cs.dropWhile (· != '.') with
  | '.' :: places =>
    if !places.isEmpty && places.all (· == '0') then cs.takeWhile (· != '.') else cs
  | _ => cs

def doubledUnderscore : List Char → Bool
  | '_' :: '_' :: _ => true
  | _ :: rest => doubledUnderscore rest
  | [] => false

/-- The characters without underscores where these stand singly and between others. -/
def withoutUnderscores (cs : List Char) : List Char :=
  if cs.head? == some '_' || cs.getLast? == some '_' || doubledUnderscore cs then cs
  else cs.filter (· != '_')

def digitLimit : Nat := 4300

def leadingDigits (cs : List Char) : List Char :=
  (if cs.head? == some '-' then cs.drop 1 else cs).takeWhile Char.isDigit

def overlong (cs : List Char) : Bool :=
  let digits := leadingDigits cs
  digits.head? != some '0' && digitLimit < digits.length

def signedDigits? (cs : List Char) : Option Int :=
  let digits := leadingDigits cs
  let size := digits.foldl (fun n d => 10 * n + (d.toNat - '0'.toNat)) 0
  let negative := cs.head? == some '-'
  if digits.isEmpty || (digits.head? == some '0' && 1 < digits.length) then none
  else if digitLimit < digits.length then none
  else if digits.length + (if negative then 1 else 0) < cs.length then none
  else some (if negative then -(size : Int) else size)

/-- What follows the sign of a whole number, read with the sign in front. Zeros in front, a fraction
of zeros and single underscores between digits are passed over, in this order. -/
def wholeAfter? (sign cs : List Char) : Option Int := do
  let digits ← withoutZeros? cs
  signedDigits? (withoutUnderscores (sign ++ withoutZeroPlaces digits))

def wholeOfText? (s : String) : Option Int :=
  match Text.trimBy Text.isWhiteSpace s.toList with
  | '+' :: '-' :: _ => none
  | '+' :: cs => wholeAfter? [] cs
  | '-' :: cs => wholeAfter? ['-'] cs
  | cs => wholeAfter? [] cs

/-- A text that has to be a whole number. Too many digits are told apart only where the text starts
with them. -/
def wholeOfText (s : String) : Except Complaint Int :=
  if Text.Halves.occurIn s then .error .notCharacters
  else if overlong s.toList then .error .tooManyDigits
  else match wholeOfText? s with
    | some n => .ok n
    | none => .error .notDecimalDigits

/-- A double read as a whole number, which it has to be, below `2 ^ 63` in size. -/
def wholeOfFloat (x : Float) : Except Complaint Int :=
  match Binary64.unpack x with
  | .notANumber => .error .notFinite
  | .infinity _ => .error .notFinite
  | .zero _ => .ok 0
  | .finite sign significand exponent _ =>
    let scale := 1 <<< (-exponent).toNat
    let size := significand <<< exponent.toNat
    if size % scale ≠ 0 then .error .fractional
    else if 1 <<< 63 ≤ size / scale then .error .tooManyDigits
    else .ok (match sign with
      | .negative => -(size / scale : Nat)
      | .positive => (size / scale : Nat))

/-- A whole number; truth values count as one and zero. -/
def whole : Value → Except Complaint Int
  | .boolean b => .ok (if b then 1 else 0)
  | .number (.whole n) => .ok n
  | .number (.real x) => wholeOfFloat x
  | .text s => wholeOfText s
  | _ => .error .notWhole

def atLeast (least : Nat) (v : Value) : Except Complaint { n : Nat // least ≤ n } := do
  let n ← whole v
  if h : (least : Int) ≤ n then return ⟨n.toNat, by omega⟩ else throw (.belowLeast least)

def between (least greatest : Nat) (v : Value) :
    Except Complaint { n : Nat // least ≤ n ∧ n ≤ greatest } := do
  let n ← atLeast least v
  if h : n.1 ≤ greatest then return ⟨n.1, n.2, h⟩ else throw (.aboveGreatest greatest)

def optional {β : Type} (check : Value → Except Complaint β) : Value → Except Complaint (Option β)
  | .null => .ok none
  | v => (check v).map some

def choice {β : Type} (choices : List β) (name : β → String) : Value → Except Complaint β
  | .text s =>
    if Text.Halves.occurIn s then .error .notCharacters
    else match choices.find? fun picked => name picked == s with
      | some picked => .ok picked
      | none => .error (.notAChoice (choices.map name))
  | _ => .error (.notAChoice (choices.map name))

def text : Value → Except Complaint String
  | .text s => .ok s
  | _ => .error .notText

def path : Value → Except Complaint String
  | .text s => .ok (Text.FilePath.normalize s)
  | _ => .error .notAPath

def field {β : Type} (fields : List (String × Value)) (name : String) (default : β)
    (check : Value → Except Complaint β) : Checked β :=
  match Value.field? fields name with
  | none => .ok default
  | some v => (check v).mapError fun complaint => [complaint.about [name] v]

/-- Checks a section of a name, which has to be a record; an absent one has no fields. -/
def sectionOf {β : Type} (fields : List (String × Value)) (name : String)
    (check : List (String × Value) → Checked β) : Checked β :=
  match (Value.field? fields name).getD (.record []) with
  | .record inner => (check inner).within name
  | v => .error [Complaint.notASection.about [name] v]

end Check

end GestureLexicon
