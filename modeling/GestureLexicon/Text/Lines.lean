/-!
Line ends. A line feed, a carriage return, or a carriage return with a line feed after it ends a
line.
-/

namespace GestureLexicon.Text

def plainLineEnds : List Char → List Char
  | '\r' :: '\n' :: rest => '\n' :: plainLineEnds rest
  | '\r' :: rest => '\n' :: plainLineEnds rest
  | c :: rest => c :: plainLineEnds rest
  | [] => []

def lines (s : String) : List String :=
  (String.ofList (plainLineEnds s.toList)).splitOn "\n"

end GestureLexicon.Text
