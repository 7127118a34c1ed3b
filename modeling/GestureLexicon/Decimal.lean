import GestureLexicon.Binary64

/-!
Doubles as decimal fractions with three places. The exact value of the double is rounded to a whole
number of thousandths, a tie going to the even one; the text then shows that whole number with a
point before its last three digits, and never an exponent.
-/

namespace GestureLexicon.Decimal
open Float.Model

/-- The whole number nearest to a quotient, the even one on a tie. -/
def roundDiv (numerator denominator : Nat) : Nat :=
  let quotient := numerator / denominator
  let twice := 2 * (numerator % denominator)
  if twice < denominator then quotient
  else if denominator < twice then quotient + 1
  else quotient + quotient % 2

def thousandths (significand : Nat) (exponent : Int) : Nat :=
  if 0 ≤ exponent then (significand <<< exponent.toNat) * 1000
  else roundDiv (significand * 1000) (1 <<< (-exponent).toNat)

def placed (count : Nat) : String :=
  let fraction := toString (count % 1000)
  toString (count / 1000) ++ "." ++ "".pushn '0' (3 - fraction.length) ++ fraction

def signText : UnpackedFloat.Sign → String
  | .negative => "-"
  | .positive => ""

/-- A double with three places. The sign is the double's own, also before zeros. -/
def fixed (x : Float) : String :=
  match Binary64.unpack x with
  | .notANumber => "nan"
  | .infinity sign => signText sign ++ "inf"
  | .zero sign => signText sign ++ placed 0
  | .finite sign significand exponent _ =>
    signText sign ++ placed (thousandths significand exponent)

def rounded (x : Float) : Float :=
  match Binary64.unpack x with
  | .finite sign significand exponent _ =>
    Binary64.ofRatio sign (thousandths significand exponent) 1000
  | _ => x

end GestureLexicon.Decimal
