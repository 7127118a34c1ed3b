import GestureLexicon.Markup.CodePage

/-!
The character sets a document can be written in, and what the first bytes of a document tell about
its own.
-/

namespace GestureLexicon.Markup

inductive ByteOrder where
  | big
  | little
  deriving DecidableEq, Repr

namespace ByteOrder

def unit (order : ByteOrder) (first second : UInt8) : Nat :=
  match order with
  | big => first.toNat * 256 + second.toNat
  | little => second.toNat * 256 + first.toNat

def units (order : ByteOrder) : List UInt8 → List Nat
  | first :: second :: rest => order.unit first second :: order.units rest
  | _ => []

/-- The characters of units. The first half of a pair takes along the unit that follows it, whatever
that is; the second half cannot stand alone. -/
def charsOfUnits? : List Nat → Option (List Char)
  | [] => some []
  | n :: rest =>
    if 0xD800 ≤ n && n < 0xDC00 then
      match rest with
      | [] => none
      | m :: rest =>
        (charsOfUnits? rest).map (Char.ofNat (0x10000 + n % 0x400 * 0x400 + m % 0x400) :: ·)
    else if 0xDC00 ≤ n && n < 0xE000 then none
    else (charsOfUnits? rest).map (Char.ofNat n :: ·)

end ByteOrder

inductive Charset where
  | utf8
  | utf16 (order : ByteOrder)
  | page (found : CodePage)
  deriving DecidableEq, Repr

namespace Charset

def decode? (bytes : List UInt8) : Charset → Option (List Char)
  | utf8 => (String.fromUTF8? ⟨bytes.toArray⟩).map String.toList
  | utf16 order =>
    if bytes.length % 2 = 0 then ByteOrder.charsOfUnits? (order.units bytes) else none
  | page found => found.decode? bytes

def width : Charset → Nat
  | utf16 _ => 2
  | _ => 1

def plain (bytes : List UInt8) : Charset → List Char
  | utf16 order => (order.units bytes).map Char.ofNat
  | _ => bytes.map fun b => Char.ofNat b.toNat

/-- The set that a document seems to be written in, and its bytes without a byte order mark. A
document starts with ASCII, and so a zero among its first two bytes is half of a unit. -/
def detect (bytes : List UInt8) : Charset × List UInt8 :=
  match bytes.map UInt8.toNat with
  | 0xFE :: 0xFF :: _ => (utf16 .big, bytes.drop 2)
  | 0xFF :: 0xFE :: _ => (utf16 .little, bytes.drop 2)
  | 0xEF :: 0xBB :: 0xBF :: _ => (utf8, bytes.drop 3)
  | 0 :: _ :: _ => (utf16 .big, bytes)
  | _ :: 0 :: _ => (utf16 .little, bytes)
  | _ => (utf8, bytes)

end Charset

end GestureLexicon.Markup
