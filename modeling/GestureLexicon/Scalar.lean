/-!
The numbers that paths and signals are measured in. Sums, products and quotients come from the
standard operator classes, so one definition serves doubles, where it runs, and the reals, where it
is reasoned about; `Scalar` adds what those classes lack.
-/

namespace GestureLexicon

/-- Counts, roots and comparisons of a kind of number. Nothing is assumed of the results: in doubles
they round, overflow and may be no number at all. -/
class Scalar (α : Type) where
  ofNat : Nat → α
  sqrt : α → α
  /-- The length of the diagonal over two perpendicular steps. -/
  hypot : α → α → α
  less : α → α → Bool
  isZero : α → Bool

/-- Reading a coordinate as a scalar, which fails only for one outside the scalars' range. -/
class Embeds (κ α : Type) where
  embed : κ → Option α

instance {α : Type} : Embeds α α := ⟨some⟩

inductive RangeError where
  | tooLarge
  deriving DecidableEq, Repr

def RangeError.message : RangeError → String
  | .tooLarge => "int too large to convert to float"

section
variable {κ α : Type} [Embeds κ α]

def embed (x : κ) : Except RangeError α :=
  match Embeds.embed x with
  | some value => .ok value
  | none => .error .tooLarge

def embedAll (xs : List κ) : Except RangeError (List α) :=
  xs.mapM embed

end

end GestureLexicon
