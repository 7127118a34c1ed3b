import GestureLexicon.Scalar

/-!
Exact values of doubles and correct rounding into them. A finite double is a sign, a whole
significand and a power of two; every function here computes with those whole numbers and rounds
once, to the nearest double and on a tie to the one with an even significand.
-/

namespace GestureLexicon.Binary64
open Float.Model

def ofUnpacked (x : UnpackedFloat) : Float :=
  .ofModel (pack x)

def unpack (x : Float) : UnpackedFloat :=
  x.toModel.unpack

def isFinite (x : Float) : Bool :=
  match unpack x with
  | .zero _ | .finite .. => true
  | _ => false

/-- The double nearest to `significand * 2 ^ exponent`; infinite past the largest one. -/
def ofScaled (sign : UnpackedFloat.Sign) (significand : Nat) (exponent : Int) : Float :=
  ofUnpacked (.round .binary64 sign significand exponent)

def ofRatio (sign : UnpackedFloat.Sign) (numerator denominator : Nat) : Float :=
  if numerator = 0 then ofUnpacked (.zero sign)
  else
    let (significand, exponent, accuracy) :=
      UnpackedFloat.divCore .binary64 numerator 0 denominator 0
    ofUnpacked (.roundWithAccuracy .binary64 sign significand exponent accuracy)

def signOf (n : Int) : UnpackedFloat.Sign :=
  if n < 0 then .negative else .positive

def ofInt? (n : Int) : Option Float :=
  let x := ofScaled (signOf n) n.natAbs 0
  if x.isInf then none else some x

def sqrtScaled (significand : Nat) (exponent : Int) : Float :=
  if h : 0 < significand then
    ofUnpacked (.sqrt .binary64 (.finite .positive significand exponent h))
  else 0.0

def magnitude : UnpackedFloat → Nat × Int
  | .finite _ significand exponent _ => (significand, exponent)
  | _ => (0, 0)

/-- The diagonal over two finite steps, rounded once: both squares are added exactly. -/
def diagonal (x y : UnpackedFloat) : Float :=
  let (m, e) := magnitude x
  let (n, f) := magnitude y
  let exponent := min e f
  let a := m <<< (e - exponent).toNat
  let b := n <<< (f - exponent).toNat
  sqrtScaled (a * a + b * b) (2 * exponent)

/-- The correctly rounded diagonal of any two doubles. An infinite step makes it infinite whatever
the other is; else a step that is no number makes the diagonal none. -/
def hypot (x y : Float) : Float :=
  if x.isInf || y.isInf then ofUnpacked (.infinity .positive)
  else if x.isNaN || y.isNaN then ofUnpacked .notANumber
  else diagonal (unpack x) (unpack y)

end GestureLexicon.Binary64

namespace GestureLexicon

instance zeroFloat : Zero Float := ⟨0.0⟩

instance : Scalar Float where
  ofNat := Float.ofNat
  sqrt := Float.sqrt
  hypot := Binary64.hypot
  less x y := decide (x < y)
  isZero x := x == 0.0

instance : Embeds Int Float := ⟨Binary64.ofInt?⟩

end GestureLexicon
