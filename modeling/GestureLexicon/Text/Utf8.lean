import GestureLexicon.Blocks
import GestureLexicon.Text.Quoted

/-!
Text in UTF-8. Bytes are read piece by piece, and a place among them is counted from where the
reading of a piece begins: at the piece, or at a character that began in the one before.
-/

namespace GestureLexicon.Text

namespace Utf8

inductive Fault where
  /-- A byte that begins no character. -/
  | start
  /-- A byte that does not continue the character before it. -/
  | continuation
  /-- An end inside a character. -/
  | ending
  deriving DecidableEq, Repr

def Fault.reason : Fault → String
  | start => "invalid start byte"
  | continuation => "invalid continuation byte"
  | ending => "unexpected end of data"

end Utf8

structure DecodingError where
  fault : Utf8.Fault
  first : UInt8
  position : Nat
  count : Nat
  deriving DecidableEq, Repr

def DecodingError.message (e : DecodingError) : String :=
  let place :=
    if e.count = 1 then
      s!"byte 0x{String.ofList (hexDigits 2 e.first.toNat)} in position {e.position}"
    else s!"bytes in position {e.position}-{e.position + e.count - 1}"
  s!"'utf-8' codec can't decode {place}: {e.fault.reason}"

namespace Utf8

inductive Beginning where
  /-- A character, which so many bytes continue. -/
  | character (more : Nat)
  | partOfCharacter
  | fault (fault : Fault) (count : Nat)

def following (b : UInt8) : Nat :=
  if b < 0x80 then 0 else if b < 0xE0 then 1 else if b < 0xF0 then 2 else 3

/-- Whether a byte can follow the first byte of a character. No character is written longer than it
has to be, none is half of a pair, and none is above the last. -/
def canFollow (b c : UInt8) : Bool :=
  let least : UInt8 := if b = 0xE0 then 0xA0 else if b = 0xF0 then 0x90 else 0x80
  let greatest : UInt8 := if b = 0xED then 0x9F else if b = 0xF4 then 0x8F else 0xBF
  least ≤ c && c ≤ greatest

def continuing (b : UInt8) (rest : List UInt8) : Nat :=
  match rest.take (following b) with
  | [] => 0
  | c :: more =>
    if canFollow b c then 1 + (more.takeWhile fun d => 0x80 ≤ d && d < 0xC0).length else 0

def startsHalf (b : UInt8) (rest : List UInt8) : Bool :=
  b == 0xED && rest.length == 1 && rest.all fun c => 0xA0 ≤ c && c < 0xC0

def beginning (b : UInt8) (rest : List UInt8) : Beginning :=
  if (0x80 ≤ b && b < 0xC2) || 0xF5 ≤ b then .fault .start 1
  else
    let count := continuing b rest
    if count = following b then .character count
    else if count = rest.length || startsHalf b rest then .partOfCharacter
    else .fault .continuation (1 + count)

def codePoint (b : UInt8) (more : List UInt8) : Nat :=
  let first := if more.isEmpty then b.toNat else b.toNat % (64 >>> more.length)
  more.foldl (fun n c => n * 64 + c.toNat % 64) first

/-- The characters of bytes, of which the first stands at a position, and the bytes at the end that
are part of one. -/
def readFrom (position : Nat) (bytes : List UInt8) :
    Except DecodingError (List Char × List UInt8) :=
  match bytes with
  | [] => .ok ([], [])
  | b :: rest =>
    match beginning b rest with
    | .character count => do
      let (cs, left) ← readFrom (position + 1 + count) (rest.drop count)
      return (Char.ofNat (codePoint b (rest.take count)) :: cs, left)
    | .partOfCharacter => .ok ([], b :: rest)
    | .fault fault count => .error ⟨fault, b, position, count⟩
termination_by bytes.length
decreasing_by
  simp only [List.length_drop, List.length_cons]
  omega

def readPieces (before : List UInt8) : List (List UInt8) → Except DecodingError (List Char)
  | [] =>
    match before with
    | [] => .ok []
    | b :: rest =>
      .error (if startsHalf b rest then ⟨.continuation, b, 0, 1⟩
        else ⟨.ending, b, 0, 1 + rest.length⟩)
  | piece :: pieces => do
    let (cs, left) ← readFrom 0 (before ++ piece)
    return cs ++ (← readPieces left pieces)

def pieceSize : Nat := 8192

def decode (bytes : List UInt8) : Except DecodingError String :=
  (readPieces [] (blocks pieceSize bytes)).map String.ofList

end Utf8

end GestureLexicon.Text
