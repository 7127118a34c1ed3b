/-!
Binary expansions read as sums of powers of two, the largest first, and the cut of a length into
consecutive parts whose sizes are those powers.
-/

namespace GestureLexicon

def isPowerOfTwo (n : Int) : Bool :=
  0 < n && n.toNat &&& (n.toNat - 1) == 0

inductive MultiplierError where
  | notPositive (n : Int)
  | negativeExponent
  /-- A power of two with more digits than a number can have. -/
  | tooManyDigits
  deriving DecidableEq, Repr

def MultiplierError.message : MultiplierError → String
  | notPositive n => s!"Ancient Egyptian decomposition needs a positive integer, got {n}"
  | negativeExponent => "negative shift count"
  | tooManyDigits => "too many digits in integer"

namespace Multipliers

def below (n : Nat) : Nat → List Nat
  | 0 => []
  | width + 1 => if n.testBit width then width :: below n width else below n width

/-- The exponents of the distinct powers of two that sum to `n`, the largest first. -/
def ofNat (n : Nat) : List Nat :=
  below n (n.log2 + 1)

def ofInt (n : Int) : Except MultiplierError (List Nat) :=
  if n < 1 then .error (.notPositive n) else .ok (ofNat n.toNat)

def power (p : Nat) : Nat := 1 <<< p

/-- The largest exponent that a shift has digits for, of which a number has up to
2305843009213693945 of 30 bits each. -/
def exponentLimit : Int := 69175290276410818320

/-- The power of two with an exponent, if a shift can make it. Memory for its digits is taken as
granted. -/
def power? (p : Int) : Except MultiplierError Nat :=
  if p < 0 then .error .negativeExponent
  else if exponentLimit < p then .error .tooManyDigits
  else .ok (power p.toNat)

def sum (exponents : List Int) : Except MultiplierError Nat :=
  exponents.foldlM (fun total p => return total + (← power? p)) 0

def layOut (offset : Nat) : List Nat → List (Nat × Nat)
  | [] => []
  | p :: rest => (offset, power p) :: layOut (offset + power p) rest

def parts (length : Nat) : List (Nat × Nat) :=
  layOut 0 (ofNat length)

end Multipliers

end GestureLexicon
