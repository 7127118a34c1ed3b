import GestureLexicon.Proofs.Axes
import GestureLexicon.Proofs.Composition

/-!
Steps that keep products. The product of two lists adds up the products of their entries, which may
be lists again. On an orthonormal wavelet a filter step keeps the product of any two signals, and
every step made of such steps does so too: on the leading band, on pieces, pass after pass and along
the columns of a table.
-/

namespace GestureLexicon
open Matrix

def pairing {β R : Type} [Add R] [Zero R] (product : β → β → R) (xs ys : List β) : R :=
  (List.zipWith product xs ys).sum

abbrev dot {R : Type} [Add R] [Mul R] [Zero R] : List R → List R → R :=
  pairing (· * ·)

variable {R β : Type} [CommRing R]

section
variable {product : β → β → R}

@[simp] theorem pairing_nil : pairing product [] [] = 0 := rfl

@[simp] theorem pairing_cons (x y : β) (xs ys : List β) :
    pairing product (x :: xs) (y :: ys) = product x y + pairing product xs ys :=
  List.sum_cons

theorem pairing_append {xs ys us vs : List β} (size : xs.length = ys.length) :
    pairing product (xs ++ us) (ys ++ vs) = pairing product xs ys + pairing product us vs := by
  simp only [pairing, List.zipWith_append size, List.sum_append]

theorem pairing_ofFn {length : ℕ} (f g : Fin length → β) :
    pairing product (List.ofFn f) (List.ofFn g) = ∑ i, product (f i) (g i) := by
  induction length with
  | zero => simp
  | succ length ih => rw [List.ofFn_succ, List.ofFn_succ, pairing_cons, ih, Fin.sum_univ_succ]

variable {height width : ℕ}

theorem pairing_flatten {fits : β → Prop} {xs ys : List (List β)}
    (first : Each height (Each width fits) xs) (second : Each height (Each width fits) ys) :
    pairing product xs.flatten ys.flatten = pairing (pairing product) xs ys := by
  obtain ⟨length, first⟩ := first
  obtain ⟨lengthOther, second⟩ := second
  induction xs generalizing ys height with
  | nil =>
    obtain rfl : ys = [] := List.length_eq_zero_iff.mp (lengthOther.trans length.symm)
    rfl
  | cons x xs ih =>
    obtain ⟨y, ys, rfl⟩ := List.exists_cons_of_length_eq_add_one (lengthOther.trans length.symm)
    rw [List.forall_mem_cons] at first second
    rw [List.flatten_cons, List.flatten_cons,
      pairing_append (first.1.length.trans second.1.length.symm), pairing_cons,
      ih rfl first.2 (Nat.succ.inj (lengthOther.trans length.symm)) second.2]

theorem pairing_columns {fits : β → Prop} {xs ys : List (List β)} (high : 0 < height)
    (first : Each height (Each width fits) xs) (second : Each height (Each width fits) ys) :
    pairing (pairing product) (columns xs) (columns ys) = pairing (pairing product) xs ys := by
  obtain ⟨f, rfl, _⟩ := first.exists_tableOf
  obtain ⟨g, rfl, _⟩ := second.exists_tableOf
  rw [columns_tableOf f high, columns_tableOf g high]
  simp only [tableOf, pairing_ofFn]
  exact Finset.sum_comm

end

section
variable {xs ys : List R}

theorem dot_append (us vs : List R) (size : xs.length = ys.length) :
    dot (xs ++ us) (ys ++ vs) = dot xs ys + dot us vs :=
  pairing_append size

theorem dot_take_drop (width : ℕ) (size : xs.length = ys.length) :
    dot (xs.take width) (ys.take width) + dot (xs.drop width) (ys.drop width) = dot xs ys := by
  rw [← dot_append _ _ (by rw [List.length_take, List.length_take, size]), List.take_append_drop,
    List.take_append_drop]

theorem dot_ofFn {length : ℕ} (f g : Fin length → R) :
    dot (List.ofFn f) (List.ofFn g) = f ⬝ᵥ g :=
  pairing_ofFn f g

end

/-- Any two that fit go to two that fit and have the same product. -/
def Isometric {γ : Type} (fits : β → Prop) (product : β → β → γ)
    (step : β → Except TransformError β) : Prop :=
  ∀ x y, fits x → fits y →
    ∃ u v, step x = .ok u ∧ step y = .ok v ∧ fits u ∧ fits v ∧ product u v = product x y

namespace Isometric
variable {fits : β → Prop} {step next same : β → Except TransformError β}

section
variable {γ : Type} {product : β → β → γ}

theorem id : Isometric fits product .ok :=
  fun x y fine fineOther => ⟨x, y, rfl, rfl, fine, fineOther, rfl⟩

theorem congr (isometric : Isometric fits product step) (equal : ∀ x, fits x → same x = step x) :
    Isometric fits product same := by
  intro x y fine fineOther
  rw [equal x fine, equal y fineOther]
  exact isometric x y fine fineOther

theorem bind (first : Isometric fits product step) (second : Isometric fits product next) :
    Isometric fits product (step · >>= next) := by
  intro x y fine fineOther
  obtain ⟨u, v, sent, sentOther, kept, keptOther, equal⟩ := first x y fine fineOther
  obtain ⟨p, q, sentOn, sentOnOther, keptOn, keptOnOther, equalOn⟩ := second u v kept keptOther
  refine ⟨p, q, ?_, ?_, keptOn, keptOnOther, equalOn.trans equal⟩
  · change step x >>= next = _
    rw [sent]
    exact sentOn
  · change step y >>= next = _
    rw [sentOther]
    exact sentOnOther

end

variable {product : β → β → R}

theorem mapM (isometric : Isometric fits product step) (count : ℕ) :
    Isometric (Each count fits) (pairing product) (·.mapM step) := by
  rintro xs ys ⟨length, fine⟩ ⟨lengthOther, fineOther⟩
  induction xs generalizing ys count with
  | nil =>
    obtain rfl : ys = [] := List.length_eq_zero_iff.mp (lengthOther.trans length.symm)
    exact ⟨[], [], rfl, rfl, ⟨length, fine⟩, ⟨length, fine⟩, rfl⟩
  | cons x xs ih =>
    obtain ⟨y, ys, rfl⟩ := List.exists_cons_of_length_eq_add_one (lengthOther.trans length.symm)
    rw [List.forall_mem_cons] at fine fineOther
    obtain ⟨u, v, sent, sentOther, kept, keptOther, equal⟩ := isometric x y fine.1 fineOther.1
    obtain ⟨us, vs, sents, sentsOther, keeps, keepsOther, equals⟩ := ih xs.length ys rfl fine.2
      (Nat.succ.inj (lengthOther.trans length.symm)) fineOther.2
    refine ⟨u :: us, v :: vs, ?_, ?_, ⟨?_, ?_⟩, ⟨?_, ?_⟩, ?_⟩
    · simp only [List.mapM_cons, sent, show xs.mapM step = _ from sents]
      rfl
    · simp only [List.mapM_cons, sentOther, show ys.mapM step = _ from sentsOther]
      rfl
    · rw [← length, List.length_cons, List.length_cons, keeps.length]
    · exact List.forall_mem_cons.mpr ⟨kept, keeps.fits⟩
    · rw [← length, List.length_cons, List.length_cons, keepsOther.length]
    · exact List.forall_mem_cons.mpr ⟨keptOther, keepsOther.fits⟩
    · rw [pairing_cons, pairing_cons, equal, equals]

theorem onColumns {height width : ℕ} {step : List β → Except TransformError (List β)}
    (isometric : Isometric (Each height fits) (pairing product) step) (high : 0 < height)
    (wide : 0 < width) :
    Isometric (Each height (Each width fits)) (pairing (pairing product)) (onColumns step) := by
  intro rows others sized sizedOther
  obtain ⟨us, vs, sent, sentOther, kept, keptOther, equal⟩ := isometric.mapM width _ _
    (each_columns sized high) (each_columns sizedOther high)
  refine ⟨columns us, columns vs, ?_, ?_, each_columns kept wide, each_columns keptOther wide, ?_⟩
  · change (columns rows).mapM step >>= _ = _
    rw [show (columns rows).mapM step = _ from sent]
    rfl
  · change (columns others).mapM step >>= _ = _
    rw [show (columns others).mapM step = _ from sentOther]
    rfl
  · rw [pairing_columns wide kept keptOther, equal, pairing_columns high sized sizedOther]

end Isometric

theorem composable_isometric : Composable fun length (step : List R → Except TransformError _) =>
    Isometric (·.length = length) dot step where
  pass _ := .id
  congr isometric equal := isometric.congr equal
  bind first second := first.bind second
  beside := by
    intro width length step next first second xs ys total totalOther
    have leading {zs : List R} (total : zs.length = width + length) :
        (zs.take width).length = width := by
      rw [List.length_take]
      omega
    have later {zs : List R} (total : zs.length = width + length) :
        (zs.drop width).length = length := by
      rw [List.length_drop]
      omega
    obtain ⟨u, v, sent, sentOther, kept, keptOther, equal⟩ :=
      first (xs.take width) (ys.take width) (leading total) (leading totalOther)
    obtain ⟨us, vs, sents, sentsOther, keeps, keepsOther, equals⟩ :=
      second (xs.drop width) (ys.drop width) (later total) (later totalOther)
    refine ⟨u ++ us, v ++ vs, ?_, ?_, ?_, ?_, ?_⟩
    · rw [beside, sent, sents]
      rfl
    · rw [beside, sentOther, sentsOther]
      rfl
    · exact List.length_append.trans (by rw [kept, keeps])
    · exact List.length_append.trans (by rw [keptOther, keepsOther])
    · rw [dot_append _ _ (kept.trans keptOther.symm), equal, equals,
        dot_take_drop width (total.trans totalOther.symm)]

namespace Wavelet
variable {w : Wavelet R}

/-- The rows of the two halves are orthonormal, so a step keeps the product of any two signals. -/
theorem Orthonormal.dot_analyse (orthonormal : w.Orthonormal) {half : ℕ} {xs ys : List R}
    (size : xs.length = 2 * half) (sizeOther : ys.length = 2 * half) :
    dot (w.analyse xs) (w.analyse ys) = dot xs ys := by
  have adjoint (taps : List R) (u v : Fin (2 * half) → R) :
      rows taps half (2 * half) *ᵥ u ⬝ᵥ rows taps half (2 * half) *ᵥ v =
        u ⬝ᵥ ((rows taps half (2 * half))ᵀ * rows taps half (2 * half)) *ᵥ v := by
    rw [dotProduct_mulVec, vecMul_mulVec, ← dotProduct_mulVec]
  rw [w.analyse_eq size, w.analyse_eq sizeOther,
    dot_append _ _ (List.length_ofFn.trans List.length_ofFn.symm), dot_ofFn, dot_ofFn, adjoint,
    adjoint, ← dotProduct_add, ← add_mulVec]
  change _ ⬝ᵥ w.roundTrip half *ᵥ _ = _
  rw [orthonormal.roundTrip_eq_one, one_mulVec, ← dot_ofFn, ofFn_entries size,
    ofFn_entries sizeOther]

theorem Orthonormal.isometric_analyse (orthonormal : w.Orthonormal) {half : ℕ} :
    Isometric (·.length = 2 * half) dot (.ok <| w.analyse ·) := by
  have kept {xs : List R} (size : xs.length = 2 * half) : (w.analyse xs).length = 2 * half :=
    (w.length_analyse (by omega)).trans size
  exact fun xs ys size sizeOther =>
    ⟨_, _, rfl, rfl, kept size, kept sizeOther, orthonormal.dot_analyse size sizeOther⟩

end Wavelet

/-- A transform on an orthonormal wavelet keeps the product of any two lines that it takes. -/
theorem Transform.isometric (t : Transform R) {length : ℕ} {level : Option Int}
    (orthonormal : t.wavelet.Orthonormal) (accepted : t.Accepts length) :
    Isometric (·.length = length) dot (t.forward · level) := by
  refine composable_isometric.forward t accepted fun width power wide => ?_
  obtain ⟨half, rfl⟩ := Nat.dvd_of_mod_eq_zero (t.wavelet.even_of_holds power wide)
  exact orthonormal.isometric_analyse

end GestureLexicon
