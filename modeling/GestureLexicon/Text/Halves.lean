/-!
Halves of surrogate pairs that stand alone. They are no characters, so characters that occur nowhere
else stand for them in a text. Which ones these are is for the reader of the text to choose.
-/

namespace GestureLexicon.Text

/-- Halves of surrogate pairs, each with the character that stands for it. -/
class Halves where
  standIns : List (Nat × Char)

namespace Halves

@[reducible] def absent : Halves := ⟨[]⟩

def standInsFrom (n : Nat) : List Nat → List Nat → List (Nat × Char)
  | _, [] => []
  | [], unit :: units => (unit, Char.ofNat n) :: standInsFrom (n + 1) [] units
  | m :: rest, unit :: units =>
    if m < n then standInsFrom n rest (unit :: units)
    else if m = n then standInsFrom (n + 1) rest (unit :: units)
    else (unit, Char.ofNat n) :: standInsFrom (n + 1) (m :: rest) units
termination_by occurring units => occurring.length + units.length

/-- A character for each half, none of them among the code points that occur. They are taken from
where no character is assigned yet. -/
def avoiding (occurring units : List Nat) : List (Nat × Char) :=
  standInsFrom 0x40000 (occurring.mergeSort fun m n => m ≤ n) units

variable [Halves]

def ofUnit (n : Nat) : Char :=
  (standIns.lookup n).getD (Char.ofNat n)

/-- The half that a character stands for. One of ASCII stands for itself and for no half. -/
def unit? (c : Char) : Option Nat :=
  if c.toNat < 0x80 then none else (standIns.find? fun (_, known) => known == c).map Prod.fst

def code (c : Char) : Nat :=
  (unit? c).getD c.toNat

def occurIn (s : String) : Bool :=
  s.toList.any fun c => (unit? c).isSome

/-- The halves that stand for bytes of file names which are no text. -/
def isNameByte (n : Nat) : Bool :=
  0xDC80 ≤ n && n < 0xDD00

def nameBytes? (c : Char) : Option Nat :=
  match unit? c with
  | some n => if isNameByte n then some 1 else none
  | none => some c.utf8Size

end Halves

end GestureLexicon.Text
