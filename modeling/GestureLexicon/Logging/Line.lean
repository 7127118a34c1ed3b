import GestureLexicon.Decimal
import GestureLexicon.Logging.Event
import GestureLexicon.Text.Quoted

/-!
Log lines as text: one JSON object on a line, in which every character is ASCII.
-/

namespace GestureLexicon

namespace LogLine

def unitEscape (n : Nat) : List Char :=
  '\\' :: 'u' :: Text.hexDigits 4 n

def stringChar (c : Char) : List Char :=
  if c == '"' || c == '\\' then ['\\', c]
  else if c == '\n' then ['\\', 'n']
  else if c == '\r' then ['\\', 'r']
  else if c == '\t' then ['\\', 't']
  else if 0x20 ≤ c.toNat && c.toNat < 0x7F then [c]
  else if c.toNat < 0x10000 then unitEscape c.toNat
  else unitEscape (0xD800 + (c.toNat - 0x10000) / 0x400) ++
    unitEscape (0xDC00 + (c.toNat - 0x10000) % 0x400)

def string (s : String) : String :=
  .ofList ('"' :: s.toList.flatMap stringChar ++ ['"'])

mutual

def value : Value → String
  | .null => "null"
  | .boolean b => if b then "true" else "false"
  | .number (.whole n) => toString n
  | .number (.real x) => Decimal.fixed x
  | .text s => string s
  | .list items => "[" ++ ", ".intercalate (values items) ++ "]"
  | .record fields => "\x7b" ++ ", ".intercalate (members fields) ++ "\x7d"

def values : List Value → List String
  | [] => []
  | item :: rest => value item :: values rest

def members : List (String × Value) → List String
  | [] => []
  | (name, item) :: rest => (string name ++ ": " ++ value item) :: members rest

end

end LogLine

def LogEvent.line (e : LogEvent) : String :=
  LogLine.value (.record e.record)

end GestureLexicon
