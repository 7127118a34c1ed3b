import GestureLexicon.Proofs.DictionaryText
import GestureLexicon.Proofs.Doubles

/-!
Decoding of printed numbers. A finite double is printed as a numeral with three places, which tells
its sign and the thousandths nearest to its exact value, and nothing else; and a list of them is
printed with a field for each. Main statement: `parameters_decodable`.
-/

namespace GestureLexicon

/-- The whole number nearest to a number, an even one if there are two. -/
structure Nearest (q : ℚ) (n : ℤ) : Prop where
  near : |q - n| ≤ 1 / 2
  even : |q - n| = 1 / 2 → Even n

namespace Nearest
variable {q : ℚ} {m n : ℤ}

theorem of_lt (near : |q - n| < 1 / 2) : Nearest q n :=
  ⟨near.le, fun between => absurd between near.ne⟩

theorem neg (nearest : Nearest q n) : Nearest (-q) (-n) := by
  have same : |-q - (-n : ℤ)| = |q - n| := by
    rw [Int.cast_neg, ← neg_sub', abs_neg]
  exact ⟨same ▸ nearest.near, fun between => (nearest.even (same ▸ between)).neg⟩

theorem unique (first : Nearest q m) (second : Nearest q n) : m = n := by
  by_contra differ
  have apart : (1 : ℚ) ≤ |((m - n : ℤ) : ℚ)| := by
    exact_mod_cast Int.one_le_abs (sub_ne_zero.mpr differ)
  have between : |((m - n : ℤ) : ℚ)| ≤ |q - n| + |q - m| := by
    have steps := abs_sub (q - n) (q - m)
    rw [sub_sub_sub_cancel_left] at steps
    rw [Int.cast_sub]
    exact steps
  have near := first.near
  have near' := second.near
  have one : |m - n| = 1 := by
    have cast : |((m - n : ℤ) : ℚ)| = 1 := by linarith
    exact_mod_cast cast
  have even := (first.even (by linarith)).sub (second.even (by linarith))
  rw [← even_abs, one] at even
  exact absurd even (by decide)

end Nearest

namespace Decimal
open Float.Model
open Binary64 (value valueOf signBit unpack)

/-! The thousandths of a double. -/

theorem nearest_roundDiv (numerator : ℕ) {denominator : ℕ} (positive : 0 < denominator) :
    Nearest (numerator / denominator) (roundDiv numerator denominator) := by
  have bottom : (0 : ℚ) < denominator := by exact_mod_cast positive
  have whole : (numerator : ℚ) = denominator * (numerator / denominator : ℕ) +
      (numerator % denominator : ℕ) := by exact_mod_cast (Nat.div_add_mod _ _).symm
  have less := Nat.mod_lt numerator positive
  rw [roundDiv]
  generalize numerator / denominator = quotient at whole
  generalize numerator % denominator = rest at whole less
  have parts : (numerator / denominator : ℚ) = quotient + rest / denominator := by
    rw [whole, add_div, mul_div_cancel_left₀ _ bottom.ne']
  have twice : 2 * ((rest : ℚ) / denominator) * denominator = (2 * rest : ℕ) := by
    rw [mul_assoc, div_mul_cancel₀ _ bottom.ne']
    push_cast
    rfl
  have least : (0 : ℚ) ≤ rest / denominator := by positivity
  have below : (rest / denominator : ℚ) < 1 := by
    rw [div_lt_one bottom]
    exact_mod_cast less
  rw [parts]
  generalize (rest / denominator : ℚ) = part at twice least below
  split
  · next less =>
    have less' : ((2 * rest : ℕ) : ℚ) < denominator := by exact_mod_cast less
    rw [← twice, mul_lt_iff_lt_one_left bottom] at less'
    apply Nearest.of_lt
    rw [Int.cast_natCast, add_sub_cancel_left, abs_of_nonneg least]
    linarith
  split
  · next more =>
    have more' : (denominator : ℚ) < (2 * rest : ℕ) := by exact_mod_cast more
    rw [← twice, lt_mul_iff_one_lt_left bottom] at more'
    apply Nearest.of_lt
    push_cast
    rw [add_sub_add_left_eq_sub, abs_of_neg (by linarith)]
    linarith
  · next notLess notMore =>
    have tie : ((2 * rest : ℕ) : ℚ) = denominator := by
      exact_mod_cast le_antisymm (not_lt.mp notMore) (not_lt.mp notLess)
    rw [← twice, mul_eq_right₀ bottom.ne'] at tie
    have half : |(quotient + part - (quotient + quotient % 2 : ℕ) : ℚ)| = 1 / 2 := by
      push_cast
      rw [add_sub_add_left_eq_sub]
      rcases Nat.mod_two_eq_zero_or_one quotient with even | odd
      · rw [even, abs_of_nonneg] <;> push_cast <;> linarith
      · rw [odd, abs_of_neg] <;> push_cast <;> linarith
    have even : Even (quotient + quotient % 2) := by
      rw [Nat.even_iff]
      omega
    exact ⟨half.le, fun _ => (Int.even_coe_nat _).mpr even⟩

theorem nearest_thousandths (significand : ℕ) (exponent : ℤ) :
    Nearest (1000 * (significand * 2 ^ exponent)) (thousandths significand exponent) := by
  rw [thousandths]
  split
  · next front =>
    obtain ⟨k, rfl⟩ := Int.eq_ofNat_of_zero_le front
    have exact : (1000 * (significand * 2 ^ (k : ℤ)) : ℚ) =
        ((significand <<< (k : ℤ).toNat * 1000 : ℕ) : ℤ) := by
      rw [Int.toNat_natCast, Nat.shiftLeft_eq, zpow_natCast]
      push_cast
      ring
    rw [exact]
    apply Nearest.of_lt
    rw [sub_self, abs_zero]
    exact one_half_pos
  · next behind =>
    obtain ⟨k, rfl⟩ : ∃ k : ℕ, exponent = -k := ⟨(-exponent).toNat, by omega⟩
    have quotient : (1000 * (significand * 2 ^ (-k : ℤ)) : ℚ) =
        (significand * 1000 : ℕ) / (1 <<< (-(-k : ℤ)).toNat : ℕ) := by
      rw [neg_neg, Int.toNat_natCast, Nat.one_shiftLeft, zpow_neg, zpow_natCast]
      push_cast
      ring
    rw [quotient]
    apply nearest_roundDiv
    rw [Nat.one_shiftLeft]
    exact Nat.two_pow_pos _

/-! Numerals with three places. -/

/-- A minus sign or none, digits without a superfluous zero in front, and three digits behind the
point. -/
structure Numeral where
  negative : Bool
  whole : List Char
  fraction : List Char
  digits : ∀ c ∈ whole ++ fraction, c.isDigit = true
  filled : whole ≠ []
  plain : whole.head? = some '0' → whole = ['0']
  places : fraction.length = 3

namespace Numeral

def text (n : Numeral) : List Char :=
  (if n.negative then ['-'] else []) ++ (n.whole ++ '.' :: n.fraction)

def thousandths (n : Numeral) : ℤ :=
  let count : ℕ := Nat.ofDigitChars 10 (n.whole ++ n.fraction) 0
  if n.negative then -count else count

variable {m n : Numeral}

theorem head?_text (n : Numeral) : n.text.head? = some '-' ↔ n.negative = true := by
  obtain ⟨c, rest, whole⟩ := List.exists_cons_of_ne_nil n.filled
  have digit : c ≠ '-' := by
    rintro rfl
    have digit := n.digits '-' (by rw [whole]; exact List.mem_cons_self)
    exact absurd digit (by decide)
  unfold text
  rw [whole]
  cases n.negative with
  | true => exact iff_of_true rfl rfl
  | false => exact iff_of_false (fun first => digit (Option.some.inj first)) Bool.false_ne_true

theorem eq_of_text (same : m.text = n.text) :
    m.negative = n.negative ∧ m.thousandths = n.thousandths := by
  have signs : m.negative = n.negative := by
    rw [Bool.eq_iff_iff, ← head?_text, same, head?_text]
  unfold text at same
  rw [signs] at same
  obtain ⟨whole, fraction⟩ := List.append_inj' (List.append_cancel_left same)
    (by rw [List.length_cons, List.length_cons, m.places, n.places])
  refine ⟨signs, ?_⟩
  unfold thousandths
  rw [signs, whole, (List.cons.inj fraction).2]

theorem eq_zero_of_head?_toDigits {n : ℕ} (zero : (Nat.toDigits 10 n).head? = some '0') :
    n = 0 := by
  induction n using Nat.strongRecOn with
  | ind n ih =>
    rw [Nat.toDigits_eq_if (by decide)] at zero
    split at zero
    · exact Nat.digitChar_eq_zero.mp (Option.some.inj zero)
    · next several =>
      rw [List.head?_append_of_ne_nil _ Nat.toDigits_ne_nil] at zero
      have first := ih (n / 10) (by omega) zero
      omega

def ofThousandths (negative : Bool) (count : ℕ) : Numeral where
  negative := negative
  whole := Nat.toDigits 10 (count / 1000)
  fraction := List.replicate (3 - (Nat.toDigits 10 (count % 1000)).length) '0' ++
    Nat.toDigits 10 (count % 1000)
  digits := by
    intro c member
    simp only [List.mem_append, List.mem_replicate] at member
    rcases member with whole | ⟨_, rfl⟩ | fraction
    · exact Nat.isDigit_of_mem_toDigits (by decide) le_rfl whole
    · rfl
    · exact Nat.isDigit_of_mem_toDigits (by decide) le_rfl fraction
  filled := Nat.toDigits_ne_nil
  plain := by
    intro zero
    rw [eq_zero_of_head?_toDigits zero]
    rfl
  places := by
    have few : (Nat.toDigits 10 (count % 1000)).length ≤ 3 :=
      (Nat.length_toDigits_le_iff (by decide) (by decide)).mpr (Nat.mod_lt count (by decide))
    rw [List.length_append, List.length_replicate, Nat.sub_add_cancel few]

theorem thousandths_ofThousandths (negative : Bool) (count : ℕ) :
    (ofThousandths negative count).thousandths = if negative then -(count : ℤ) else count := by
  have read : Nat.ofDigitChars 10 ((ofThousandths negative count).whole ++
      (ofThousandths negative count).fraction) 0 = count := by
    have three := (ofThousandths negative count).places
    rw [Nat.ofDigitChars_append, Nat.ofDigitChars_eq_ofDigitChars_zero, three]
    change 10 ^ 3 * Nat.ofDigitChars 10 (Nat.toDigits 10 (count / 1000)) 0 +
      Nat.ofDigitChars 10 (_ ++ Nat.toDigits 10 (count % 1000)) 0 = count
    rw [Nat.ofDigitChars_append, Nat.ofDigitChars_replicate_zero, mul_zero,
      Nat.ofDigitChars_ten_toDigits, Nat.ofDigitChars_ten_toDigits]
    exact Nat.div_add_mod count 1000
  unfold thousandths
  rw [read]
  rfl

theorem text_ofThousandths (negative : Bool) (count : ℕ) :
    (ofThousandths negative count).text =
      (if negative then ['-'] else []) ++ (placed count).toList := by
  have digits (n : ℕ) : (toString n).toList = Nat.toDigits 10 n := Nat.toList_repr
  have size (n : ℕ) : (toString n).length = (Nat.toDigits 10 n).length := by
    rw [← String.length_toList, digits]
  have point : ".".toList = ['.'] := rfl
  rw [placed]
  simp only [String.toList_append, toList_pushn, digits, size, point, List.append_assoc,
    List.singleton_append]
  rfl

end Numeral

open Numeral (ofThousandths)

theorem fixed_eq {x : Float} (finite : Binary64.isFinite x = true) :
    ∃ count : ℕ, (fixed x).toList = (ofThousandths (signBit x) count).text ∧
      Nearest (1000 * value x) (ofThousandths (signBit x) count).thousandths := by
  suffices shown : ∃ sign count, fixed x = signText sign ++ placed count ∧
      sign = (if signBit x then .negative else .positive) ∧
      Nearest (1000 * value x) (sign.apply count) by
    obtain ⟨sign, count, printed, own, nearest⟩ := shown
    refine ⟨count, ?_, ?_⟩
    · rw [printed, own, String.toList_append, Numeral.text_ofThousandths]
      cases signBit x <;> rfl
    · rw [own] at nearest
      rw [Numeral.thousandths_ofThousandths]
      cases bit : signBit x <;> rw [bit] at nearest <;> exact nearest
  unfold Binary64.isFinite at finite
  cases shape : unpack x with
  | infinity sign => rw [shape] at finite; exact nomatch finite
  | notANumber => rw [shape] at finite; exact nomatch finite
  | zero sign =>
    refine ⟨sign, 0, by rw [fixed, shape], Binary64.sign_unpack (.inl shape), ?_⟩
    rw [value, shape]
    apply Nearest.of_lt
    cases sign <;> norm_num [valueOf, UnpackedFloat.Sign.apply]
  | finite sign significand exponent positive =>
    refine ⟨sign, thousandths significand exponent, by rw [fixed, shape],
      Binary64.sign_unpack (.inr ⟨significand, exponent, positive, shape⟩), ?_⟩
    have nearest := nearest_thousandths significand exponent
    rw [value, shape, valueOf]
    cases sign with
    | positive => exact nearest
    | negative =>
      have opposite := nearest.neg
      rw [← mul_neg, ← neg_mul] at opposite
      simpa only [UnpackedFloat.Sign.apply, Int.cast_neg, Int.cast_natCast] using opposite

/-- So doubles are printed alike exactly if they have the same sign and the same nearest
thousandths. -/
theorem fixed_eq_fixed_iff {x y : Float} (finite : Binary64.isFinite x = true)
    (finite' : Binary64.isFinite y = true) :
    fixed x = fixed y ↔ signBit x = signBit y ∧
      ∃ n, Nearest (1000 * value x) n ∧ Nearest (1000 * value y) n := by
  obtain ⟨count, printed, nearest⟩ := fixed_eq finite
  obtain ⟨count', printed', nearest'⟩ := fixed_eq finite'
  constructor
  · intro same
    obtain ⟨signs, counts⟩ := Numeral.eq_of_text (printed.symm.trans (same ▸ printed'))
    exact ⟨signs, _, nearest, counts ▸ nearest'⟩
  · rintro ⟨signs, n, near, near'⟩
    have counts := (nearest.unique near).trans (near'.unique nearest')
    rw [Numeral.thousandths_ofThousandths, Numeral.thousandths_ofThousandths, signs] at counts
    have same : count = count' := by
      split at counts <;> omega
    apply String.toList_inj.mp
    rw [printed, printed', signs, same]

theorem fixed_ne_dash (x : Float) : fixed x ≠ "-" := by
  have point (sign : UnpackedFloat.Sign) (count : ℕ) : signText sign ++ placed count ≠ "-" := by
    intro dash
    have within : '.' ∈ (signText sign ++ placed count).toList := by
      rw [placed]
      simp
    rw [dash] at within
    exact absurd within (by decide)
  unfold fixed
  cases unpack x with
  | notANumber => decide
  | infinity sign => cases sign <;> decide
  | zero sign => exact point sign 0
  | finite sign significand exponent _ => exact point sign _

end Decimal

namespace Dictionary

theorem parameters_eq_dash_iff (values : List Float) : parameters values = "-" ↔ values = [] := by
  constructor
  · intro dash
    by_contra nonempty
    have fields := splitOn_parameters nonempty
    rw [dash] at fields
    obtain ⟨x, _, printed⟩ := List.map_eq_singleton_iff.mp fields.symm
    exact Decimal.fixed_ne_dash x (String.toList_inj.mp printed)
  · rintro rfl
    rfl

theorem parameters_eq_parameters_iff {values others : List Float} (nonempty : values ≠ [])
    (nonempty' : others ≠ []) : parameters values = parameters others ↔
      List.Forall₂ (fun x y => Decimal.fixed x = Decimal.fixed y) values others := by
  have printed : List.Forall₂ (fun x y => Decimal.fixed x = Decimal.fixed y) values others ↔
      values.map (fun x => (Decimal.fixed x).toList) =
        others.map fun y => (Decimal.fixed y).toList := by
    rw [← List.forall₂_eq_eq_eq, List.forall₂_map_left_iff, List.forall₂_map_right_iff]
    simp only [String.toList_inj]
  rw [printed, ← splitOn_parameters nonempty, ← splitOn_parameters nonempty']
  constructor
  · exact fun same => same ▸ rfl
  · intro same
    have joined := congrArg ['\t'].intercalate same
    rw [List.intercalate_splitOn, List.intercalate_splitOn] at joined
    exact String.toList_inj.mp joined

open Decimal (Numeral)
open Binary64 (signBit value isFinite)

/-- Printed numbers are decodable. Between the tabs there is a numeral for each of the doubles, with
its sign and its nearest thousandths; two lists are printed alike exactly if these are the same
entry by entry; and what stands for no numbers is printed for no others. -/
theorem parameters_decodable {values : List Float} (nonempty : values ≠ [])
    (finite : ∀ x ∈ values, isFinite x = true) :
    List.Forall₂ (fun field x => ∃ n : Numeral, n.text = field ∧ n.negative = signBit x ∧
        Nearest (1000 * value x) n.thousandths)
      ((parameters values).toList.splitOn '\t') values ∧
    (∀ others, others ≠ [] → (∀ y ∈ others, isFinite y = true) →
      (parameters values = parameters others ↔ List.Forall₂ (fun x y => signBit x = signBit y ∧
        ∃ n, Nearest (1000 * value x) n ∧ Nearest (1000 * value y) n) values others)) ∧
    ∀ others, parameters others = "-" ↔ others = [] := by
  refine ⟨?_, fun others nonempty' finite' => ?_, parameters_eq_dash_iff⟩
  · rw [splitOn_parameters nonempty, List.forall₂_map_left_iff, List.forall₂_same]
    intro x member
    obtain ⟨count, printed, nearest⟩ := Decimal.fixed_eq (finite x member)
    exact ⟨_, printed.symm, rfl, nearest⟩
  · rw [parameters_eq_parameters_iff nonempty nonempty', List.forall₂_iff_get, List.forall₂_iff_get]
    refine and_congr_right fun _ => forall_congr' fun i => forall₂_congr fun below below' => ?_
    exact Decimal.fixed_eq_fixed_iff (finite _ (List.get_mem _ _)) (finite' _ (List.get_mem _ _))

/-- A tie is printed with the even thousandth, and zero with the sign of what was rounded to it. -/
theorem parameters_tie_negative_zero :
    let values : List Float := [0.0625, -0.0001]
    values ≠ [] ∧ (∀ x ∈ values, isFinite x = true) ∧ parameters values = "0.062\t-0.000" ∧
      List.Forall₂ (fun field x => ∃ n : Numeral, n.text = field ∧ n.negative = signBit x ∧
        Nearest (1000 * value x) n.thousandths) ["0.062".toList, "-0.000".toList] values := by
  intro values
  have nonempty : values ≠ [] := List.cons_ne_nil _ _
  have finite : ∀ x ∈ values, isFinite x = true := by decide +kernel
  have printed : parameters values = "0.062\t-0.000" := by decide +kernel
  obtain ⟨fields, _⟩ := parameters_decodable nonempty finite
  rw [printed] at fields
  exact ⟨nonempty, finite, printed, fields⟩

end Dictionary
end GestureLexicon
