import GestureLexicon.Proofs.Doubles

/-!
Whole numbers as doubles. A whole number is rounded to the nearest double; one of no more than 53
binary digits is that double, and doubles that are whole numbers differ by the double nearest to the
difference of these numbers. So whether two of them are subtracted before they are rounded or after
makes no difference.
-/

namespace GestureLexicon.Binary64
open Float.Model Float.Model.UnpackedFloat

theorem normalize_eq (n : ℤ) (exponent : ℤ) (zeroSign : Sign) :
    UnpackedFloat.normalize .binary64 n exponent zeroSign =
      if n = 0 then .zero zeroSign
      else UnpackedFloat.round .binary64 (signOf n) n.natAbs exponent := by
  unfold UnpackedFloat.normalize signOf
  rcases lt_trichotomy n 0 with negative | rfl | positive
  · have order : compare n 0 = .lt := compare_lt_iff_lt.mpr negative
    have size : (-n).toNat = n.natAbs := by omega
    simp only [order, size, if_neg negative.ne, if_pos negative]
  · rfl
  · have order : compare n 0 = .gt := compare_gt_iff_gt.mpr positive
    have size : n.toNat = n.natAbs := by omega
    simp only [order, size, if_neg positive.ne', if_neg positive.not_gt]

/-- Nor does rounding see how a value with a sign is written. -/
theorem normalize_congr (zeroSign : Sign) {m n e f : ℤ} (same : (m * 2 ^ e : ℚ) = n * 2 ^ f) :
    UnpackedFloat.normalize .binary64 m e zeroSign =
      UnpackedFloat.normalize .binary64 n f zeroSign := by
  have less (k e : ℤ) : k < 0 ↔ (k * 2 ^ e : ℚ) < 0 := by
    rw [← not_le, ← not_le, mul_nonneg_iff_of_pos_right (zpow_pos two_pos e)]
    norm_cast
  have vanishes (k e : ℤ) : k = 0 ↔ (k * 2 ^ e : ℚ) = 0 := by
    rw [mul_eq_zero_iff_right (zpow_pos two_pos e).ne']
    norm_cast
  have size (k e : ℤ) : (k.natAbs * 2 ^ e : ℚ) = |(k * 2 ^ e : ℚ)| := by
    have power : |(2 : ℚ) ^ e| = 2 ^ e := abs_of_pos (zpow_pos two_pos e)
    rw [abs_mul, power, Nat.cast_natAbs, Int.cast_abs]
  have signs : signOf m = signOf n := if_congr (by rw [less m e, same, ← less n f]) rfl rfl
  rw [normalize_eq, normalize_eq, signs]
  by_cases zero : m = 0
  · rw [if_pos zero, if_pos ((vanishes n f).mpr (same ▸ (vanishes m e).mp zero))]
  · rw [if_neg zero, if_neg fun other => zero ((vanishes m e).mpr (same ▸ (vanishes n f).mp other))]
    exact round_congr _ (Int.natAbs_pos.mpr zero) (by rw [size, size, same])

theorem normalize_canonical (sign zeroSign : Sign) {significand : ℕ} {exponent : ℤ}
    (positive : 0 < significand) (canonical : Canonical significand exponent) :
    UnpackedFloat.normalize .binary64 (sign.apply significand) exponent zeroSign =
      .finite sign significand exponent positive := by
  have size : (sign.apply significand).natAbs = significand := by
    cases sign
    · exact Int.natAbs_neg _
    · rfl
  have signs : signOf (sign.apply significand) = sign := by
    cases sign
    · exact if_pos (by simpa [Sign.apply] using positive)
    · exact if_neg (by simp [Sign.apply])
  rw [normalize_eq, size, signs, if_neg (Int.natAbs_pos.mp (size.symm ▸ positive))]
  exact round_canonical sign positive canonical

theorem ofInt?_eq (n : ℤ) :
    ofInt? n =
      let x := ofUnpacked (UnpackedFloat.normalize .binary64 n 0 .positive)
      if x.isInf then none else some x := by
  have same : ofScaled (signOf n) n.natAbs 0 =
      ofUnpacked (UnpackedFloat.normalize .binary64 n 0 .positive) := by
    rw [normalize_eq, ofScaled]
    split
    · next zero =>
      rw [zero]
      rfl
    · rfl
  rw [ofInt?, same]

/-- A double that is a whole number. -/
structure Stores (x : Float) (n : ℤ) : Prop where
  found : ofInt? n = some x
  exact : value x = n

theorem Stores.cases {x : Float} {n : ℤ} (stores : Stores x n) :
    (n = 0 ∧ unpack x = .zero .positive) ∨
      ∃ sign significand exponent positive,
        unpack x = .finite sign significand exponent positive ∧
          (sign.apply significand * 2 ^ exponent : ℚ) = n := by
  by_cases zero : n = 0
  · have found := stores.found
    rw [zero] at found
    obtain rfl : ofUnpacked (.zero .positive) = x := Option.some.inj found
    exact .inl ⟨zero, rfl⟩
  · have exact := stores.exact
    rw [value] at exact
    cases shape : unpack x with
    | finite sign significand exponent positive =>
      rw [shape] at exact
      exact .inr ⟨sign, significand, exponent, positive, rfl, exact⟩
    | _ =>
      rw [shape] at exact
      exact absurd (Int.cast_eq_zero.mp exact.symm) zero

theorem decreaseExponent_value (sign : Sign) (significand : ℕ) {exponent least : ℤ}
    (below : least ≤ exponent) :
    (sign.apply (decreaseExponent significand exponent least).1 * 2 ^ least : ℚ) =
      sign.apply significand * 2 ^ exponent := by
  obtain ⟨k, rfl⟩ : ∃ k : ℕ, exponent = least + k := ⟨(exponent - least).toNat, by omega⟩
  have size : (decreaseExponent significand (least + k) least).1 = significand * 2 ^ k := by
    rw [decreaseExponent, add_sub_cancel_left, Int.toNat_natCast, Nat.shiftLeft_eq]
  rw [size, zpow_add₀ two_ne_zero, zpow_natCast]
  cases sign <;> simp only [Sign.apply] <;> push_cast <;> ring

theorem Stores.sub {x y : Float} {m n : ℤ} (first : Stores x m) (second : Stores y n) :
    x - y = ofUnpacked (UnpackedFloat.normalize .binary64 (m - n) 0 .positive) := by
  change ofUnpacked (UnpackedFloat.sub .binary64 (unpack x) (unpack y)) = _
  congr 1
  rcases first.cases with ⟨rfl, shape⟩ | ⟨s, a, e, positive, shape, exact⟩
  · rcases second.cases with ⟨rfl, shape'⟩ | ⟨s', b, f, positive', shape', exact'⟩
    · rw [shape, shape']
      rfl
    · have opposite : ((-s').apply b : ℚ) * 2 ^ f = ((0 - n : ℤ) : ℚ) * 2 ^ (0 : ℤ) := by
        push_cast
        rw [← exact']
        cases s' <;> simp [Sign.apply]
      rw [shape, shape', ← normalize_congr .positive opposite]
      exact (normalize_canonical (-s') .positive positive' (canonical_unpack shape')).symm
  · rcases second.cases with ⟨rfl, shape'⟩ | ⟨s', b, f, positive', shape', exact'⟩
    · have same : (s.apply a : ℚ) * 2 ^ e = ((m - 0 : ℤ) : ℚ) * 2 ^ (0 : ℤ) := by
        simpa using exact
      rw [shape, shape', ← normalize_congr .positive same]
      exact (normalize_canonical s .positive positive (canonical_unpack shape)).symm
    · have parts : ((s.apply (decreaseExponent a e (min e f)).1 -
          s'.apply (decreaseExponent b f (min e f)).1 : ℤ) : ℚ) * 2 ^ min e f =
          ((m - n : ℤ) : ℚ) * 2 ^ (0 : ℤ) := by
        rw [Int.cast_sub, Int.cast_sub, sub_mul, decreaseExponent_value s a (min_le_left e f),
          decreaseExponent_value s' b (min_le_right e f), exact, exact', zpow_zero, mul_one]
      rw [shape, shape']
      exact normalize_congr .positive parts

/-! The double nearest to a whole number. -/

theorem mantissa_shiftRight (n k : ℕ) : (whole n >>> k).mantissa = n / 2 ^ k := by
  induction k with
  | zero => rw [pow_zero, Nat.div_one]; rfl
  | succ k ih =>
    rw [shiftRight_succ, pow_succ, ← Nat.div_div_eq_div_mul, ← ih]
    rfl

theorem roundedMantissa_bounds (m : ExtendedMantissa) :
    m.mantissa ≤ m.roundedMantissa ∧ m.roundedMantissa ≤ m.mantissa + 1 := by
  obtain ⟨mantissa, roundBit, stickyBit⟩ := m
  cases roundBit <;> cases stickyBit <;>
    simp only [ExtendedMantissa.roundedMantissa, ExtendedMantissa.accuracy,
      Accuracy.roundToNearestEven] <;> omega

theorem cut_bounds {n : ℕ} (positive : 0 < n) :
    2 ^ 52 ≤ n * 2 ^ (52 - n.log2) / 2 ^ (n.log2 - 52) ∧
      n * 2 ^ (52 - n.log2) / 2 ^ (n.log2 - 52) < 2 ^ 53 := by
  have least := Nat.log2_self_le positive.ne'
  have most := @Nat.lt_log2_self n
  generalize n.log2 = digits at least most
  rw [Nat.le_div_iff_mul_le (Nat.two_pow_pos _), Nat.div_lt_iff_lt_mul (Nat.two_pow_pos _)]
  have split : 52 + (digits - 52) = digits + (52 - digits) := by omega
  have split' : 53 + (digits - 52) = digits + 1 + (52 - digits) := by omega
  rw [← pow_add, ← pow_add, split, split', pow_add, pow_add _ (digits + 1)]
  exact ⟨Nat.mul_le_mul_right _ least, Nat.mul_lt_mul_of_pos_right most (Nat.two_pow_pos _)⟩

theorem round_number (sign : Sign) {n : ℕ} (positive : 0 < n) :
    ∃ significand exponent more,
      UnpackedFloat.round .binary64 sign n 0 = .finite sign significand exponent more ∧
        2 ^ 52 ≤ significand ∧ significand < 2 ^ 53 ∧ -52 ≤ exponent ∧
        exponent ≤ n.log2 - 51 := by
  have place : lastPlace n 0 = n.log2 - 52 := by
    rw [lastPlace_eq]
    omega
  have first := aligned_eq positive 0 (52 - n.log2) (n.log2 - 52) (by rw [place]; omega)
  rw [place] at first
  obtain ⟨least, most⟩ := cut_bounds positive
  obtain ⟨kept, near⟩ := roundedMantissa_bounds (whole (n * 2 ^ (52 - n.log2)) >>> (n.log2 - 52))
  rw [mantissa_shiftRight] at kept near
  rw [round_eq, first]
  dsimp only
  generalize (whole (n * 2 ^ (52 - n.log2)) >>> (n.log2 - 52)).roundedMantissa = rounded
    at kept near
  generalize exponent : (n.log2 : ℤ) - 52 = last
  have shifted : shiftToTargetExponent .binary64 rounded last .exact =
      (whole rounded >>> (lastPlace rounded last - last).toNat,
        last + (lastPlace rounded last - last).toNat) := rfl
  rcases (show rounded ≤ 2 ^ 53 by omega).lt_or_eq with less | rfl
  · have canonical : Canonical rounded last := ⟨less, by omega, .inl (by omega)⟩
    have filled : 0 < rounded := by omega
    have same : shiftToTargetExponent .binary64 rounded last .exact = (whole rounded, last) := by
      rw [shifted, lastPlace_canonical filled canonical, sub_self]
      exact congrArg (Prod.mk _) (add_zero last)
    refine ⟨rounded, last, filled, ?_, by omega, less, by omega, by omega⟩
    simp only [same]
    exact dif_neg filled.ne'
  · have carried : lastPlace (2 ^ 53) last = last + 1 := by
      rw [lastPlace_eq, Nat.log2_two_pow]
      omega
    rw [carried, add_sub_cancel_left] at shifted
    refine ⟨2 ^ 52, last + 1, by decide, ?_, le_rfl, by decide, by omega, by omega⟩
    simp only [shifted]
    rfl

theorem isInf_ofUnpacked (sign : Sign) {significand : ℕ} {exponent : ℤ}
    (positive : 0 < significand) (full : 2 ^ 52 ≤ significand) (beyond : 971 < exponent) :
    (ofUnpacked (.finite sign significand exponent positive)).isInf = true := by
  have bias : Format.binary64.exponentBias = 1023 := rfl
  have packed : UnpackedFloat.pack .binary64 (.finite sign significand exponent positive) =
      packedInfinity .binary64 sign := by
    have digits := (Nat.le_log2 positive.ne').mpr full
    rw [UnpackedFloat.pack]
    simp only [bias]
    exact if_pos (by push_cast; omega)
  change (UnpackedFloat.unpack .binary64 (UnpackedFloat.pack .binary64 _)).isInf = true
  rw [packed, packedInfinity, UnpackedFloat.unpack]
  simp only [unpackMantissa_packComponents, unpackExponent_packComponents]
  rfl

/-- A whole number has a double, unless that would have too large an exponent. -/
theorem ofInt?_cases {n : ℤ} (nonzero : n ≠ 0) :
    ∃ (significand : ℕ) (exponent : ℤ) (positive : 0 < significand),
      exponent ≤ n.natAbs.log2 - 51 ∧
        (exponent ≤ 971 → ∃ x, ofInt? n = some x ∧
          unpack x = .finite (signOf n) significand exponent positive) ∧
        (971 < exponent → ofInt? n = none) := by
  obtain ⟨significand, exponent, positive, rounded, full, lt, least, most⟩ :=
    round_number (signOf n) (Int.natAbs_pos.mpr nonzero)
  have normal : UnpackedFloat.normalize .binary64 n 0 .positive =
      .finite (signOf n) significand exponent positive := by
    rw [normalize_eq, if_neg nonzero, rounded]
  have found := ofInt?_eq n
  rw [normal] at found
  refine ⟨significand, exponent, positive, most, fun within => ?_, fun beyond => ?_⟩
  · have read : unpack (ofUnpacked (.finite (signOf n) significand exponent positive)) = _ :=
      unpack_ofUnpacked (signOf n) positive full lt (by omega) within
    have bounded : (ofUnpacked (.finite (signOf n) significand exponent positive)).isInf =
        false := by
      change (unpack _).isInf = false
      rw [read]
      rfl
    refine ⟨_, found.trans ?_, read⟩
    dsimp only
    rw [bounded, if_neg Bool.false_ne_true]
  · rw [found]
    exact if_pos (isInf_ofUnpacked (signOf n) positive full beyond)

theorem sub_self_of_found {x : Float} {n : ℤ} (found : ofInt? n = some x) :
    x - x = ofUnpacked (.zero .positive) := by
  change ofUnpacked (UnpackedFloat.sub .binary64 (unpack x) (unpack x)) = _
  congr 1
  by_cases vanishes : n = 0
  · rw [vanishes] at found
    obtain rfl : ofUnpacked (.zero .positive) = x := Option.some.inj found
    rfl
  · obtain ⟨significand, exponent, positive, -, within, beyond⟩ := ofInt?_cases vanishes
    rcases le_or_gt exponent 971 with least | more
    · obtain ⟨y, other, shape⟩ := within least
      obtain rfl : y = x := Option.some.inj (other.symm.trans found)
      have cancels (m e : ℤ) : UnpackedFloat.normalize .binary64 (m - m) e .positive =
          .zero .positive := by
        rw [normalize_eq, if_pos (sub_self m)]
      rw [shape, UnpackedFloat.sub]
      exact cancels _ _
    · exact nomatch (beyond more).symm.trans found

theorem exists_ofInt? {n : ℤ} (short : n.natAbs < 2 ^ 1000) : ∃ x, ofInt? n = some x := by
  by_cases vanishes : n = 0
  · subst vanishes
    exact ⟨ofUnpacked (.zero .positive), rfl⟩
  · obtain ⟨significand, exponent, positive, most, within, -⟩ := ofInt?_cases vanishes
    have digits := (Nat.log2_lt (Int.natAbs_ne_zero.mpr vanishes)).mpr short
    obtain ⟨x, found, -⟩ := within (by omega)
    exact ⟨x, found⟩

theorem exists_full {n : ℕ} (positive : 0 < n) (small : n ≤ 2 ^ 53) :
    ∃ (significand : ℕ) (exponent : ℤ), 2 ^ 52 ≤ significand ∧ significand < 2 ^ 53 ∧
      -52 ≤ exponent ∧ exponent ≤ 1 ∧ (significand * 2 ^ exponent : ℚ) = n := by
  rcases small.lt_or_eq with less | rfl
  · have digits := (Nat.log2_lt positive.ne').mpr less
    let missing := 52 - n.log2
    have full : (n * 2 ^ missing).log2 = 52 := by
      rw [log2_scaled positive]
      omega
    obtain ⟨least, most⟩ := (Nat.log2_eq_iff (by positivity)).mp full
    refine ⟨n * 2 ^ missing, -missing, least, most, by omega, by omega, ?_⟩
    push_cast
    rw [zpow_neg, zpow_natCast, mul_inv_cancel_right₀ (by positivity)]
  · exact ⟨2 ^ 52, 1, le_rfl, by decide, by decide, le_rfl, by norm_num⟩

theorem exists_stores {n : ℤ} (small : n.natAbs ≤ 2 ^ 53) : ∃ x, Stores x n := by
  by_cases zero : n = 0
  · subst zero
    exact ⟨ofUnpacked (.zero .positive), rfl, rfl⟩
  obtain ⟨significand, exponent, full, lt, least, most, size⟩ :=
    exists_full (Int.natAbs_pos.mpr zero) small
  have positive : 0 < significand := by omega
  have signed : ((signOf n).apply significand * 2 ^ exponent : ℚ) = n := by
    unfold signOf
    split
    · next negative =>
      have opposite : (n.natAbs : ℚ) = -n := by
        rw [Nat.cast_natAbs, abs_of_neg negative, Int.cast_neg]
      simp only [Sign.apply, Int.cast_neg, Int.cast_natCast, neg_mul, size, opposite, neg_neg]
    · next other =>
      have same : (n.natAbs : ℚ) = n := by
        rw [Nat.cast_natAbs, abs_of_nonneg (not_lt.mp other)]
      simp only [Sign.apply, Int.cast_natCast, size, same]
  have rounded : UnpackedFloat.normalize .binary64 n 0 .positive =
      .finite (signOf n) significand exponent positive := by
    have canonical : Canonical significand exponent := ⟨lt, by omega, .inl full⟩
    rw [← normalize_canonical (signOf n) .positive positive canonical]
    apply normalize_congr
    rw [signed, zpow_zero, mul_one]
  have read : unpack (ofUnpacked (.finite (signOf n) significand exponent positive)) = _ :=
    unpack_ofUnpacked (signOf n) positive full lt (by omega) (by omega)
  have bounded : (ofUnpacked (.finite (signOf n) significand exponent positive)).isInf = false := by
    change (unpack _).isInf = false
    rw [read]
    rfl
  refine ⟨ofUnpacked (.finite (signOf n) significand exponent positive), ?_, ?_⟩
  · rw [ofInt?_eq, rounded]
    dsimp only
    rw [bounded, if_neg Bool.false_ne_true]
  · rw [value, read]
    exact signed

end GestureLexicon.Binary64
