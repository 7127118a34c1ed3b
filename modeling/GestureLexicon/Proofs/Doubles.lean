import GestureLexicon.Binary64
import Mathlib

/-!
Exact values of doubles. A finite double is a significand times a power of two, kept in one form
only, and rounding into doubles depends on the exact value alone: however a value is written as a
significand and an exponent, it rounds to the same double, and the value of a double to that double.
-/

namespace GestureLexicon.Binary64
open Float.Model Float.Model.UnpackedFloat

/-- The exact value of a finite number; zero for all others. -/
def valueOf : UnpackedFloat → ℚ
  | .finite sign significand exponent _ => sign.apply significand * 2 ^ exponent
  | _ => 0

def value (x : Float) : ℚ :=
  valueOf (unpack x)

/-- The form in which doubles keep a significand and an exponent. -/
structure Canonical (significand : ℕ) (exponent : ℤ) : Prop where
  lt : significand < 2 ^ 53
  least : -1074 ≤ exponent
  full : 2 ^ 52 ≤ significand ∨ exponent = -1074

/-! Rounding shifts a significand to the last place that is kept. -/

abbrev whole (significand : ℕ) : ExtendedMantissa :=
  .ofMantissaAndAccuracy significand .exact

theorem shiftRight_succ (m : ExtendedMantissa) (k : ℕ) : m >>> (k + 1) = (m >>> k).shiftRightOne :=
  rfl

theorem shiftRight_shiftRight (m : ExtendedMantissa) (j k : ℕ) : m >>> j >>> k = m >>> (j + k) := by
  induction k with
  | zero => rfl
  | succ k ih => rw [shiftRight_succ, ih, ← Nat.add_assoc, shiftRight_succ]

theorem whole_shiftRight (significand k : ℕ) :
    whole (significand * 2 ^ k) >>> k = whole significand := by
  induction k generalizing significand with
  | zero => rw [pow_zero, mul_one]; rfl
  | succ k ih =>
    rw [shiftRight_succ, pow_succ', ← mul_assoc, ih]
    simp [whole, ExtendedMantissa.ofMantissaAndAccuracy, ExtendedMantissa.shiftRightOne]

theorem whole_shiftRight_add (significand j k : ℕ) :
    whole (significand * 2 ^ j) >>> (j + k) = whole significand >>> k := by
  rw [← shiftRight_shiftRight, whole_shiftRight]

def lastPlace (significand : ℕ) (exponent : ℤ) : ℤ :=
  Format.binary64.targetExponent (totalExponent significand exponent)

theorem lastPlace_eq (significand : ℕ) (exponent : ℤ) :
    lastPlace significand exponent = max (significand.log2 + exponent - 52) (-1074) := by
  simp only [lastPlace, Format.targetExponent, totalExponent, Format.mantissaBits,
    Format.minExponent]
  norm_num
  omega

theorem log2_scaled {n : ℕ} (positive : 0 < n) (k : ℕ) : (n * 2 ^ k).log2 = n.log2 + k := by
  rw [Nat.log2_eq_iff (by positivity), ← Nat.add_right_comm, pow_add, pow_add]
  exact ⟨Nat.mul_le_mul_right _ (Nat.log2_self_le positive.ne'),
    Nat.mul_lt_mul_of_pos_right Nat.lt_log2_self (Nat.two_pow_pos k)⟩

theorem lastPlace_scaled {significand : ℕ} (positive : 0 < significand) (exponent : ℤ) (k : ℕ) :
    lastPlace (significand * 2 ^ k) (exponent - k) = lastPlace significand exponent := by
  rw [lastPlace_eq, lastPlace_eq, log2_scaled positive]
  push_cast
  congr 1
  ring

theorem lastPlace_canonical {significand : ℕ} {exponent : ℤ} (positive : 0 < significand)
    (canonical : Canonical significand exponent) : lastPlace significand exponent = exponent := by
  have digits := (Nat.log2_lt positive.ne').mpr canonical.lt
  have least := canonical.least
  rw [lastPlace_eq]
  rcases canonical.full with full | last
  · have places := (Nat.le_log2 positive.ne').mpr full
    omega
  · omega

/-- A number shifted to the last place that is kept of it, with what was shifted out. -/
def aligned (significand : ℕ) (exponent : ℤ) : ExtendedMantissa × ℤ :=
  let widened := decreaseExponent significand exponent (lastPlace significand exponent)
  shiftToTargetExponent .binary64 widened.1 widened.2 .exact

theorem round_eq (sign : Sign) (significand : ℕ) (exponent : ℤ) :
    UnpackedFloat.round .binary64 sign significand exponent =
      let first := aligned significand exponent
      let last := shiftToTargetExponent .binary64 first.1.roundedMantissa first.2 .exact
      if h : last.1.mantissa = 0 then .zero sign
      else .finite sign last.1.mantissa last.2 (Nat.pos_of_ne_zero h) := rfl

theorem aligned_eq {significand : ℕ} (positive : 0 < significand) (exponent : ℤ)
    (behind front : ℕ) (reached : exponent + front = lastPlace significand exponent + behind) :
    aligned significand exponent =
      (whole (significand * 2 ^ behind) >>> front, lastPlace significand exponent) := by
  generalize place : lastPlace significand exponent = last at reached
  let widening := (exponent - last).toNat
  have kept : lastPlace (significand <<< widening) (exponent - widening) = last := by
    rw [Nat.shiftLeft_eq, lastPlace_scaled positive, place]
  have shifted : aligned significand exponent =
      (whole (significand <<< widening) >>> (last - (exponent - widening)).toNat,
        exponent - widening + (last - (exponent - widening)).toNat) := by
    simp only [aligned, place, decreaseExponent]
    change shiftToExponent _ _ _ (lastPlace _ _) = _
    rw [kept]
    rfl
  rw [shifted, Nat.shiftLeft_eq]
  congr 1
  · obtain ⟨j, rfl⟩ : ∃ j, behind = widening + j := ⟨behind - widening, by omega⟩
    rw [show front = j + (last - (exponent - widening)).toNat by omega, pow_add, ← mul_assoc,
      whole_shiftRight_add]
  · omega

theorem aligned_scaled {significand : ℕ} (positive : 0 < significand) (exponent : ℤ) (k : ℕ) :
    aligned (significand * 2 ^ k) (exponent - k) = aligned significand exponent := by
  generalize place : lastPlace significand exponent = last
  let behind := (exponent - last).toNat
  let front := (last - exponent).toNat
  have more : 0 < significand * 2 ^ k := by positivity
  have scaled := aligned_eq more (exponent - k) behind (k + front)
    (by rw [lastPlace_scaled positive, place]; omega)
  have plain := aligned_eq positive exponent behind front (by rw [place]; omega)
  rw [scaled, plain, lastPlace_scaled positive, mul_right_comm, whole_shiftRight_add]

/-- Rounding does not see how a value is written as a significand and an exponent. -/
theorem round_congr (sign : Sign) {m n : ℕ} {e f : ℤ} (positive : 0 < m)
    (same : (m * 2 ^ e : ℚ) = n * 2 ^ f) :
    UnpackedFloat.round .binary64 sign m e = UnpackedFloat.round .binary64 sign n f := by
  have positive' : 0 < n := by
    have left : (0 : ℚ) < n * 2 ^ f := same ▸ by positivity
    exact_mod_cast pos_of_mul_pos_left left (by positivity)
  suffices kept : aligned m e = aligned n f by rw [round_eq, round_eq, kept]
  wlog ordered : e ≤ f generalizing m n e f
  · exact (this positive' same.symm positive (le_of_not_ge ordered)).symm
  obtain ⟨k, rfl⟩ : ∃ k : ℕ, e = f - k := ⟨(f - e).toNat, by omega⟩
  have scaled : m = n * 2 ^ k := by
    rw [zpow_sub₀ two_ne_zero, zpow_natCast, mul_div_assoc', div_eq_iff (by positivity),
      mul_right_comm] at same
    exact_mod_cast mul_right_cancel₀ (by positivity) same
  rw [scaled, aligned_scaled positive']

/-- What has the form of doubles is rounded to itself. -/
theorem round_canonical (sign : Sign) {significand : ℕ} {exponent : ℤ} (positive : 0 < significand)
    (canonical : Canonical significand exponent) :
    UnpackedFloat.round .binary64 sign significand exponent =
      .finite sign significand exponent positive := by
  have place := lastPlace_canonical positive canonical
  have first : aligned significand exponent = (whole significand, exponent) := by
    rw [aligned_eq positive exponent 0 0 (by rw [place]), place, pow_zero, mul_one]
    rfl
  have last : shiftToTargetExponent .binary64 significand exponent .exact =
      (whole significand, exponent) := by
    change shiftToExponent _ _ _ (lastPlace significand exponent) = _
    rw [place, shiftToExponent, sub_self]
    exact congrArg (Prod.mk _) (add_zero exponent)
  have rounded : (whole significand).roundedMantissa = significand := rfl
  simp only [round_eq, first, rounded, last]
  exact dif_neg positive.ne'

/-! Finite doubles have that form. -/

theorem one_append (fraction : BitVec 52) : (1#1 ++ fraction).toNat = 2 ^ 52 + fraction.toNat := by
  rw [BitVec.toNat_append, ← Nat.shiftLeft_add_eq_or_of_lt fraction.isLt]
  rfl

theorem canonical_unpack {x : Float} {sign : Sign} {significand : ℕ} {exponent : ℤ}
    {positive : 0 < significand} (shape : unpack x = .finite sign significand exponent positive) :
    Canonical significand exponent := by
  have bias : Format.binary64.exponentBias = 1023 := rfl
  let bits : BitVec Format.binary64.numBits := x.toModel.toBits.toBitVec
  let fraction : BitVec 52 := unpackMantissa bits
  let field : BitVec 11 := unpackExponent bits
  have within : fraction.toNat < 2 ^ 52 := fraction.isLt
  change UnpackedFloat.unpack .binary64 bits = _ at shape
  unfold UnpackedFloat.unpack at shape
  dsimp only at shape
  split at shape
  · split at shape <;> cases shape
  · split at shape
    · next least =>
      have zero : field.toNat = 0 := congrArg BitVec.toNat least
      split at shape
      · cases shape
      · cases shape
        change Canonical fraction.toNat ((field.toNat : ℤ) - (_ + 52) + 1)
        rw [zero, bias]
        exact ⟨by omega, by decide, .inr (by decide)⟩
    · next more =>
      have nonzero : field.toNat ≠ 0 := fun zero => more (BitVec.eq_of_toNat_eq zero)
      cases shape
      change Canonical (1#1 ++ fraction).toNat ((field.toNat : ℤ) - (_ + 52))
      rw [one_append, bias]
      exact ⟨by omega, by omega, .inl (Nat.le_add_right _ _)⟩

theorem unpack_ofUnpacked (sign : Sign) {significand : ℕ} {exponent : ℤ}
    (positive : 0 < significand) (full : 2 ^ 52 ≤ significand) (lt : significand < 2 ^ 53)
    (least : -1074 ≤ exponent) (most : exponent ≤ 971) :
    unpack (ofUnpacked (.finite sign significand exponent positive)) =
      .finite sign significand exponent positive := by
  have bias : Format.binary64.exponentBias = 1023 := rfl
  have digits : significand.log2 = 52 := (Nat.log2_eq_iff positive.ne').mpr ⟨full, lt⟩
  obtain ⟨n, rfl⟩ : ∃ n : ℕ, exponent = n - 1075 := ⟨(exponent + 1075).toNat, by omega⟩
  let field := BitVec.ofNat 11 n
  let fraction := BitVec.ofNat 52 significand
  have packed : UnpackedFloat.pack .binary64 (.finite sign significand (n - 1075) positive) =
      packComponents .binary64 sign field fraction := by
    have biased : ((n : ℤ) - 1075 + 1023 + 52).toNat = n := by omega
    rw [UnpackedFloat.pack]
    simp only [bias, digits]
    push_cast
    rw [biased, if_neg (by omega)]
    exact if_pos rfl
  have number : field.toNat = n := by
    rw [BitVec.toNat_ofNat, Nat.mod_eq_of_lt (by omega)]
  have nonzero : field ≠ 0#11 := by
    intro blank
    have zero : n = 0 := number.symm.trans (congrArg BitVec.toNat blank)
    omega
  have finite : field ≠ -1#11 := by
    intro all
    have last : n = 2047 := number.symm.trans (congrArg BitVec.toNat all)
    omega
  have rest : (1#1 ++ fraction).toNat = significand := by
    rw [one_append, BitVec.toNat_ofNat]
    omega
  change UnpackedFloat.unpack .binary64 (UnpackedFloat.pack .binary64 _) = _
  rw [packed, UnpackedFloat.unpack]
  simp only [unpackMantissa_packComponents, unpackExponent_packComponents,
    unpackSign_packComponents, Sign.ofBitVec_toBitVec, if_neg nonzero, if_neg finite, rest, number,
    bias]
  rfl

def signBit (x : Float) : Bool :=
  x.toBits.toBitVec.msb

theorem sign_unpack {x : Float} {sign : Sign} (shape : unpack x = .zero sign ∨
      ∃ significand exponent positive, unpack x = .finite sign significand exponent positive) :
    sign = if signBit x then .negative else .positive := by
  let bits : BitVec Format.binary64.numBits := x.toModel.toBits.toBitVec
  have first : Sign.ofBitVec (unpackSign bits) = if bits.msb then .negative else .positive := by
    have bit : unpackSign bits = BitVec.ofBool bits.msb := by
      apply BitVec.eq_of_getLsbD_eq
      intro i within
      obtain rfl : i = 0 := by omega
      simp [unpackSign_def, BitVec.msb_eq_getLsbD_last]
    rw [bit]
    cases bits.msb <;> rfl
  change UnpackedFloat.unpack .binary64 bits = _ ∨
    ∃ _ _ _, UnpackedFloat.unpack .binary64 bits = _ at shape
  unfold UnpackedFloat.unpack at shape
  dsimp only at shape
  split at shape
  · split at shape <;> rcases shape with shape | ⟨_, _, _, shape⟩ <;> cases shape
  · split at shape
    · split at shape <;> rcases shape with shape | ⟨_, _, _, shape⟩ <;> cases shape <;> exact first
    · rcases shape with shape | ⟨_, _, _, shape⟩ <;> cases shape
      exact first

end GestureLexicon.Binary64
