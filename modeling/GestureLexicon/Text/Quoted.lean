import GestureLexicon.Text.Printable

/-!
Quoted texts, in which every character can be seen. Single quotes stand around the text, or double
ones where it holds single quotes and no double ones; what cannot be printed is written by its code.
-/

namespace GestureLexicon.Text

def quoteFor (cs : List Char) : Char :=
  if cs.contains '\'' && !cs.contains '"' then '"' else '\''

def hexDigits (width n : Nat) : List Char :=
  (List.range width).reverse.map fun place => Nat.digitChar (n >>> (4 * place) % 16)

/-- A character as it stands between quotes, written by its code where it cannot be shown. -/
def quotedChar (code : Char → Nat) (quote c : Char) : List Char :=
  if c == quote || c == '\\' then ['\\', c]
  else if c == '\n' then ['\\', 'n']
  else if c == '\r' then ['\\', 'r']
  else if c == '\t' then ['\\', 't']
  else if isPrintable c then [c]
  else if code c < 0x100 then '\\' :: 'x' :: hexDigits 2 (code c)
  else if code c < 0x10000 then '\\' :: 'u' :: hexDigits 4 (code c)
  else '\\' :: 'U' :: hexDigits 8 (code c)

def quotedBy (code : Char → Nat) (s : String) : String :=
  let cs := s.toList
  let quote := quoteFor cs
  .ofList (quote :: cs.flatMap (quotedChar code quote) ++ [quote])

def quoted (s : String) : String :=
  quotedBy Char.toNat s

end GestureLexicon.Text
