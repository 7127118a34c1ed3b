import GestureLexicon.Text.Blank
import GestureLexicon.Text.DecimalDigit

/-!
Whole numbers in texts: blanks around an optional sign and decimal digits of any script, with single
underscores between digits.
-/

namespace GestureLexicon.Text.WholeNumber

def digitLimit : Nat := 4300

/-- The values of digits between which single underscores may stand. -/
def digitValues? : List Char → Option (List Nat)
  | [] => none
  | [c] => (digitValue? c).map ([·])
  | c :: '_' :: rest => do return (← digitValue? c) :: (← digitValues? rest)
  | c :: rest => do return (← digitValue? c) :: (← digitValues? rest)

def natural? (cs : List Char) : Option Nat := do
  let values ← digitValues? cs
  if values.length ≤ digitLimit then some (values.foldl (fun n d => 10 * n + d) 0) else none

def read? (s : String) : Option Int :=
  match trimBy isBlank s.toList with
  | '-' :: cs => (natural? cs).map fun n => -(n : Int)
  | '+' :: cs => (natural? cs).map Int.ofNat
  | cs => (natural? cs).map Int.ofNat

end GestureLexicon.Text.WholeNumber
