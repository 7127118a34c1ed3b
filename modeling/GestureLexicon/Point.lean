import GestureLexicon.Binary64

/-!
Points of the keyboard plane. A coordinate keeps how it was given, as a whole number of any size or
as a double; distances subtract the coordinates first and only then measure in doubles.
-/

namespace GestureLexicon

inductive Coordinate where
  | whole (n : Int)
  | real (x : Float)
  deriving DecidableEq

namespace Coordinate

def toFloat? : Coordinate → Option Float
  | whole n => Binary64.ofInt? n
  | real x => some x

instance : Embeds Coordinate Float := ⟨toFloat?⟩

def isZero : Coordinate → Bool
  | whole n => n == 0
  | real x => Scalar.isZero x

/-- The difference of two coordinates as a double. Whole numbers are subtracted exactly and then
rounded; with a double among them both are rounded first. -/
def difference (x y : Coordinate) : Except RangeError Float :=
  match x, y with
  | whole m, whole n => embed (m - n)
  | _, _ => do
    let a : Float ← embed x
    let b : Float ← embed y
    return a - b

end Coordinate

structure Point (κ : Type) where
  x : κ
  y : κ
  deriving DecidableEq

namespace Point

def map {κ κ' : Type} (f : κ → κ') (p : Point κ) : Point κ' :=
  ⟨f p.x, f p.y⟩

def distance (a b : Point Coordinate) : Except RangeError Float := do
  let dx ← b.x.difference a.x
  let dy ← b.y.difference a.y
  return Scalar.hypot dx dy

end Point

end GestureLexicon
