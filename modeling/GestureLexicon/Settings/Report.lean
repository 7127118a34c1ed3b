import GestureLexicon.Settings.Check

/-!
Reports of what was found wrong with a section of settings: for each finding the field, what is
expected of it and what it was given instead.
-/

namespace GestureLexicon

def Complaint.alternatives : List String → String
  | [] => ""
  | [only] => s!"'{only}'"
  | [first, last] => s!"'{first}' or '{last}'"
  | first :: rest => s!"'{first}', " ++ alternatives rest

def Complaint.message : Complaint → String
  | belowLeast least => s!"Input should be greater than or equal to {least}"
  | aboveGreatest greatest => s!"Input should be less than or equal to {greatest}"
  | notWhole => "Input should be a valid integer"
  | notDecimalDigits => "Input should be a valid integer, unable to parse string as an integer"
  | tooManyDigits => "Unable to parse input string as an integer, exceeded maximum size"
  | fractional => "Input should be a valid integer, got a number with a fractional part"
  | notFinite => "Input should be a finite number"
  | notAChoice choices => "Input should be " ++ alternatives choices
  | notText => "Input should be a valid string"
  | notCharacters =>
    "Input should be a valid string, unable to parse raw data as a unicode string"
  | notAPath => "Input is not a valid path"
  | notASection => "Input should be a valid dictionary"
  | inconsistent message => message

def Complaint.page (complaint : Complaint) : String :=
  "https://errors.pydantic.dev/2.14/v/" ++ complaint.name

namespace Finding

def lines (f : Finding) : List String :=
  [".".intercalate f.location,
   "  " ++ f.complaint.message ++ " [type=" ++ f.complaint.name ++ ", input_value="
    ++ Text.abridged f.shown ++ ", input_type=" ++ f.kind ++ "]",
   "    For further information visit " ++ f.complaint.page]

def report (title : String) (findings : List Finding) : String :=
  let noun := if findings.length = 1 then "error" else "errors"
  "\n".intercalate (s!"{findings.length} validation {noun} for {title}" :: findings.flatMap lines)

end Finding

end GestureLexicon
