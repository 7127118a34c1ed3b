import Mathlib.Data.List.Forall2

/-!
Computations that may fail, and lists that are read entry by entry with one. Such a reading succeeds
with what each entry is read as, or else stops at the first entry that fails.
-/

namespace GestureLexicon
variable {β γ ε δ : Type}

theorem bind_eq_ok {x : Except ε β} {f : β → Except ε γ} {y : γ} (succeeds : x >>= f = .ok y) :
    ∃ a, x = .ok a ∧ f a = .ok y := by
  cases x with
  | error e => exact nomatch succeeds
  | ok a => exact ⟨a, rfl, succeeds⟩

theorem mapError_eq_ok {x : Except ε β} {f : ε → δ} {y : β} (succeeds : x.mapError f = .ok y) :
    x = .ok y := by
  cases x with
  | error e => exact nomatch succeeds
  | ok a => exact congrArg Except.ok (Except.ok.inj succeeds)

theorem mapM_of_forall₂ {f : β → Except ε γ} {xs : List β} {ys : List γ}
    (each : List.Forall₂ (fun x y => f x = .ok y) xs ys) : xs.mapM f = .ok ys := by
  induction each with
  | nil => rfl
  | cons first _ rest =>
    rw [List.mapM_cons, first, rest]
    rfl

theorem forall₂_of_mapM {f : β → Except ε γ} {xs : List β} {ys : List γ}
    (sent : xs.mapM f = .ok ys) : List.Forall₂ (fun x y => f x = .ok y) xs ys := by
  induction xs generalizing ys with
  | nil =>
    obtain rfl := Except.ok.inj sent
    exact .nil
  | cons x xs ih =>
    rw [List.mapM_cons] at sent
    obtain ⟨y, read, sent⟩ := bind_eq_ok sent
    obtain ⟨rest, sentRest, made⟩ := bind_eq_ok sent
    obtain rfl := Except.ok.inj made
    exact .cons read (ih sentRest)

theorem exists_of_mem_mapM {f : β → Except ε γ} {xs : List β} {ys : List γ}
    (sent : xs.mapM f = .ok ys) {y : γ} (member : y ∈ ys) : ∃ x ∈ xs, f x = .ok y := by
  have each := forall₂_of_mapM sent
  obtain ⟨i, within, rfl⟩ := List.getElem_of_mem member
  have below : i < xs.length := each.length_eq ▸ within
  exact ⟨xs[i], List.getElem_mem below, each.get below within⟩

theorem mapM_ofFn {count : ℕ} {step : β → Except ε γ} {f : Fin count → β} {g : Fin count → γ}
    (each : ∀ i, step (f i) = .ok (g i)) :
    (List.ofFn f).mapM step = .ok (List.ofFn g) := by
  apply mapM_of_forall₂
  rw [List.forall₂_iff_get]
  refine ⟨by simp, fun i below _ => ?_⟩
  simpa using each ⟨i, by simpa using below⟩

theorem mapM_replicate {step : β → Except ε γ} {x : β} {y : γ} (sent : step x = .ok y)
    (count : ℕ) : (List.replicate count x).mapM step = .ok (.replicate count y) := by
  induction count with
  | zero => rfl
  | succ count ih =>
    rw [List.replicate_succ, List.mapM_cons, sent, ih]
    rfl

theorem mapM_error {f : β → Except ε γ} {before after : List β} {x : β} {e : ε}
    (fine : ∀ b ∈ before, ∃ y, f b = .ok y) (fails : f x = .error e) :
    (before ++ x :: after).mapM f = .error e := by
  induction before with
  | nil =>
    rw [List.nil_append, List.mapM_cons, fails]
    rfl
  | cons b before ih =>
    obtain ⟨y, read⟩ := fine b List.mem_cons_self
    rw [List.cons_append, List.mapM_cons, read,
      ih fun other member => fine other (List.mem_cons_of_mem b member)]
    rfl

theorem mapM_ok_of_forall {f : β → Except ε γ} {related : γ → Prop} {xs : List β}
    (fine : ∀ x ∈ xs, ∃ y, f x = .ok y ∧ related y) :
    ∃ ys, xs.mapM f = .ok ys ∧ ys.length = xs.length ∧ ∀ y ∈ ys, related y := by
  induction xs with
  | nil => exact ⟨[], rfl, rfl, by simp⟩
  | cons x xs ih =>
    obtain ⟨y, read, holds⟩ := fine x List.mem_cons_self
    obtain ⟨ys, sent, size, rest⟩ :=
      ih fun other member => fine other (List.mem_cons_of_mem x member)
    refine ⟨y :: ys, ?_, by rw [List.length_cons, List.length_cons, size], ?_⟩
    · rw [List.mapM_cons, read, sent]
      rfl
    · rintro other member
      rcases List.mem_cons.mp member with rfl | later
      · exact holds
      · exact rest other later

theorem mapM_reverse {f : β → Except ε γ} {g : β → Except δ γ} {xs : List β} {ys : List γ}
    (same : ∀ x y, f x = .ok y → g x = .ok y) (sent : xs.mapM f = .ok ys) :
    xs.reverse.mapM g = .ok ys.reverse := by
  apply mapM_of_forall₂
  rw [List.forall₂_reverse_iff]
  exact (forall₂_of_mapM sent).imp same

theorem mapM_mapError {f : β → Except ε γ} {g : β → Except δ γ} {rename : ε → δ} {xs : List β}
    (each : ∀ x ∈ xs, g x = (f x).mapError rename) :
    xs.mapM g = (xs.mapM f).mapError rename := by
  induction xs with
  | nil => rfl
  | cons x xs ih =>
    rw [List.forall_mem_cons] at each
    rw [List.mapM_cons, List.mapM_cons, each.1, ih each.2]
    cases f x with
    | error e => rfl
    | ok y => cases xs.mapM f <;> rfl

end GestureLexicon
