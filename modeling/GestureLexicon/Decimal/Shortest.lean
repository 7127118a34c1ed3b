import GestureLexicon.Decimal

/-!
Doubles as the shortest decimals that read back as the same double. The digits are found by trying
one more at a time: on each decimal grid the two neighbours of the exact value are read back, the
nearer first.
-/

namespace GestureLexicon.Decimal
open Float.Model

/-- A decimal number: its digits, and the power of ten that they count. -/
structure Scientific where
  digits : Nat
  exponent : Int
  deriving DecidableEq, Repr

def tenTo (exponent : Int) : Nat := Nat.pow 10 exponent.toNat

def Scientific.toFloat (sign : UnpackedFloat.Sign) (d : Scientific) : Float :=
  Binary64.ofRatio sign (d.digits * tenTo d.exponent) (tenTo (-d.exponent))

/-- Any double apart from zero exceeds one when its point is moved by so many places. -/
def leastPlaces : Nat := 345

/-- The place of the point of `significand * 2 ^ exponent`: the digits before it, or less than zero
by the zeros that follow it. -/
def pointPlace (significand : Nat) (exponent : Int) : Int :=
  let moved := ((significand <<< exponent.toNat) * tenTo leastPlaces) >>> (-exponent).toNat
  ((Nat.toDigits 10 moved).length : Int) - leastPlaces

/-- The two multiples of a power of ten beside `significand * 2 ^ exponent`, the nearer first and on
a tie the even one. -/
def neighbours (significand : Nat) (exponent place : Int) : List Scientific :=
  let numerator := (significand <<< exponent.toNat) * tenTo (-place)
  let denominator := (1 <<< (-exponent).toNat) * tenTo place
  let below := numerator / denominator
  let nearest := roundDiv numerator denominator
  [⟨nearest, place⟩, ⟨if nearest = below then below + 1 else below, place⟩]

def mostDigits : Nat := 17

/-- The shortest decimal that reads back as a double of the given parts, and of two the nearer. -/
def shortest (sign : UnpackedFloat.Sign) (significand : Nat) (exponent : Int) : Scientific :=
  let x := Binary64.ofScaled sign significand exponent
  let place := pointPlace significand exponent
  let grids := (List.range mostDigits).map fun n => place - (n + 1 : Nat)
  ((grids.flatMap (neighbours significand exponent)).find? fun d => d.toFloat sign == x).getD
    ⟨thousandths significand exponent, -3⟩

def pointed (digits : List Char) (place : Int) : List Char :=
  if place ≤ 0 then '0' :: '.' :: List.replicate (-place).toNat '0' ++ digits
  else
    let whole := digits.take place.toNat ++ List.replicate (place.toNat - digits.length) '0'
    let fraction := digits.drop place.toNat
    whole ++ '.' :: (if fraction.isEmpty then ['0'] else fraction)

def powered (digits : List Char) (power : Int) : List Char :=
  let figures := Nat.toDigits 10 power.natAbs
  digits.take 1 ++ (if digits.length < 2 then [] else '.' :: digits.drop 1)
    ++ 'e' :: (if power < 0 then '-' else '+')
    :: (List.replicate (2 - figures.length) '0' ++ figures)

/-- The powers of ten of a first digit from which on, and below which, no power is written. -/
def plainPowers : Int × Int := (-4, 16)

def Scientific.text (d : Scientific) : String :=
  let digits := Nat.toDigits 10 d.digits
  let kept := (digits.reverse.dropWhile (· == '0')).reverse
  let place := digits.length + d.exponent
  .ofList (if plainPowers.1 < place && place ≤ plainPowers.2 then pointed kept place
    else powered kept (place - 1))

def plain (x : Float) : String :=
  match Binary64.unpack x with
  | .notANumber => "nan"
  | .infinity sign => signText sign ++ "inf"
  | .zero sign => signText sign ++ "0.0"
  | .finite sign significand exponent _ =>
    signText sign ++ (shortest sign significand exponent).text

end GestureLexicon.Decimal
