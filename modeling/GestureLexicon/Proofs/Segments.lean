import GestureLexicon.Proofs.WholeDoubles
import GestureLexicon.Proofs.WordPath

/-!
The lengths of a path's segments beside the distances between its points. The lengths are measured
along the axes, whose coordinates are rounded before they are subtracted, while distances subtract
coordinates first where they can. Both agree wherever that makes no difference to the coordinates.
Main statement: `segments_measured`.
-/

namespace GestureLexicon

section
variable {κ α : Type} [Embeds κ α] {x : κ}

theorem embed_of_some {value : α} (found : Embeds.embed x = some value) : embed x = .ok value := by
  rw [embed, found]

theorem embed_of_none (absent : (Embeds.embed x : Option α) = none) :
    (embed x : Except RangeError α) = .error .tooLarge := by
  rw [embed, absent]

theorem embed_eq_ok {value : α} (read : embed x = .ok value) : Embeds.embed x = some value := by
  cases found : (Embeds.embed x : Option α) with
  | none => exact nomatch (embed_of_none found).symm.trans read
  | some other => exact congrArg some (Except.ok.inj ((embed_of_some found).symm.trans read))

end

namespace Coordinate
open Binary64 (Stores)

/-- Coordinates whose difference is the same whether they are rounded before it is taken or it is
after: equal ones, doubles, and whole numbers that are doubles. -/
def RoundAlike : Coordinate → Coordinate → Prop
  | whole m, whole n => m = n ∨ (∃ a, Stores a m) ∧ ∃ b, Stores b n
  | _, _ => True

/-- Coordinates whose difference has no double: it is that of two whole numbers and too large, or a
whole number that meets a double is too large itself. -/
def FarApart : Coordinate → Coordinate → Prop
  | whole m, whole n => Binary64.ofInt? (m - n) = none
  | x, y => x.toFloat? = none ∨ y.toFloat? = none

/-- A whole number with no more binary digits than a double keeps, or a double. -/
def Short : Coordinate → Prop
  | whole n => n.natAbs ≤ 2 ^ 53
  | real _ => True

variable {x y : Coordinate} {a b : Float}

def roundedDifference (x y : Coordinate) : Except RangeError Float := do
  let a : Float ← embed x
  let b : Float ← embed y
  return a - b

theorem roundedDifference_ok (first : x.toFloat? = some a) (second : y.toFloat? = some b) :
    x.roundedDifference y = .ok (a - b) := by
  rw [roundedDifference, embed_of_some first, embed_of_some second]
  rfl

theorem roundedDifference_eq_error_iff :
    (∃ e, x.roundedDifference y = .error e) ↔ x.toFloat? = none ∨ y.toFloat? = none := by
  cases first : x.toFloat? with
  | none =>
    refine iff_of_true ⟨.tooLarge, ?_⟩ (.inl rfl)
    rw [roundedDifference, embed_of_none first]
    rfl
  | some a =>
    cases second : y.toFloat? with
    | none =>
      refine iff_of_true ⟨.tooLarge, ?_⟩ (.inr rfl)
      rw [roundedDifference, embed_of_some first, embed_of_none second]
      rfl
    | some b =>
      rw [roundedDifference_ok first second]
      simp

theorem difference_eq_error_iff (x y : Coordinate) :
    (∃ e, x.difference y = .error e) ↔ FarApart x y := by
  match x, y with
  | whole m, whole n =>
    change (∃ e, (embed (m - n) : Except RangeError Float) = .error e) ↔ _
    cases far : Binary64.ofInt? (m - n) with
    | none => exact iff_of_true ⟨_, embed_of_none far⟩ far
    | some d =>
      rw [embed_of_some far]
      exact iff_of_false (fun ⟨_, other⟩ => nomatch other) (by rw [FarApart, far]; exact nofun)
  | whole m, real b => exact roundedDifference_eq_error_iff
  | real a, whole n => exact roundedDifference_eq_error_iff
  | real a, real b => exact roundedDifference_eq_error_iff

theorem difference_of_roundAlike (alike : RoundAlike x y) (first : x.toFloat? = some a)
    (second : y.toFloat? = some b) :
    x.difference y = .ok (a - b) ∨ FarApart x y ∧ (a - b).isInf = true := by
  match x, y with
  | whole m, whole n =>
    have rounded : a - b = Binary64.ofUnpacked (.normalize .binary64 (m - n) 0 .positive) := by
      rcases alike with rfl | ⟨⟨c, stores⟩, d, stores'⟩
      · obtain rfl : a = b := Option.some.inj (first.symm.trans second)
        rw [Binary64.sub_self_of_found first, sub_self]
        rfl
      · obtain rfl : a = c := Option.some.inj (first.symm.trans stores.found)
        obtain rfl : b = d := Option.some.inj (second.symm.trans stores'.found)
        exact stores.sub stores'
    have found := Binary64.ofInt?_eq (m - n)
    rw [← rounded] at found
    dsimp only at found
    cases infinite : (a - b).isInf with
    | true =>
      rw [infinite] at found
      exact .inr ⟨found, rfl⟩
    | false =>
      rw [infinite] at found
      exact .inl (embed_of_some found)
  | whole m, real b => exact .inl (roundedDifference_ok first second)
  | real a, whole n => exact .inl (roundedDifference_ok first second)
  | real a, real b => exact .inl (roundedDifference_ok first second)

theorem Short.exists_double (short : x.Short) : ∃ a, x.toFloat? = some a := by
  match x with
  | whole n =>
    obtain ⟨a, stores⟩ := Binary64.exists_stores short
    exact ⟨a, stores.found⟩
  | real a => exact ⟨a, rfl⟩

theorem Short.roundAlike (first : x.Short) (second : y.Short) : RoundAlike x y := by
  match x, y with
  | whole m, whole n => exact .inr ⟨Binary64.exists_stores first, Binary64.exists_stores second⟩
  | whole m, real b => trivial
  | real a, _ => trivial

theorem Short.not_farApart (first : x.Short) (second : y.Short) : ¬FarApart x y := by
  have apart : ¬(x.toFloat? = none ∨ y.toFloat? = none) := by
    obtain ⟨a, found⟩ := first.exists_double
    obtain ⟨b, found'⟩ := second.exists_double
    rw [found, found']
    simp
  match x, y with
  | whole m, whole n =>
    have near : (m - n).natAbs < 2 ^ 1000 := by
      have least := Int.natAbs_sub_le m n
      unfold Short at first second
      exact least.trans_lt (by omega)
    obtain ⟨d, found⟩ := Binary64.exists_ofInt? near
    intro far
    exact nomatch far.symm.trans found
  | whole m, real b => exact apart
  | real a, whole n => exact apart
  | real a, real b => exact apart

end Coordinate

namespace Binary64
variable {x y : Float}

theorem hypot_of_isInf (infinite : x.isInf = true ∨ y.isInf = true) :
    (hypot x y).isInf = true := by
  rw [hypot, if_pos (Bool.or_eq_true_iff.mpr infinite)]
  rfl

end Binary64

namespace Point
open Coordinate (RoundAlike FarApart)

structure Rounds (p : Point Coordinate) (r : Point Float) : Prop where
  x : p.x.toFloat? = some r.x
  y : p.y.toFloat? = some r.y

def roundedDistance (r s : Point Float) : Except RangeError Float :=
  (r.map Coordinate.real).distance (s.map Coordinate.real)

theorem roundedDistance_eq (r s : Point Float) :
    r.roundedDistance s = .ok (Scalar.hypot (s.x - r.x) (s.y - r.y)) := rfl

theorem distance_eq_error_iff (p q : Point Coordinate) :
    (∃ e, p.distance q = .error e) ↔ FarApart q.x p.x ∨ FarApart q.y p.y := by
  rw [← Coordinate.difference_eq_error_iff, ← Coordinate.difference_eq_error_iff, distance]
  cases q.x.difference p.x with
  | error e => exact iff_of_true ⟨e, rfl⟩ (.inl ⟨e, rfl⟩)
  | ok dx =>
    cases q.y.difference p.y with
    | error e => exact iff_of_true ⟨e, rfl⟩ (.inr ⟨e, rfl⟩)
    | ok dy => simp [bind, Except.bind, pure, Except.pure]

/-- Where rounding makes no difference along both axes, the distance of two points is that of their
doubles, which is infinite if there is none. -/
theorem distance_of_roundAlike {p q : Point Coordinate} {r s : Point Float} (first : p.Rounds r)
    (second : q.Rounds s) {length : Float} (rounded : r.roundedDistance s = .ok length)
    (alikeX : RoundAlike q.x p.x) (alikeY : RoundAlike q.y p.y) :
    p.distance q = .ok length ∨ (∃ e, p.distance q = .error e) ∧ length.isInf = true := by
  obtain rfl := Except.ok.inj ((roundedDistance_eq r s).symm.trans rounded)
  rcases Coordinate.difference_of_roundAlike alikeX second.x first.x with alongX | ⟨far, infinite⟩
  · rcases Coordinate.difference_of_roundAlike alikeY second.y first.y with alongY | ⟨far, infinite⟩
    · left
      rw [distance, alongX, alongY]
      rfl
    · exact .inr ⟨(distance_eq_error_iff p q).mpr (.inr far),
        Binary64.hypot_of_isInf (.inr infinite)⟩
  · exact .inr ⟨(distance_eq_error_iff p q).mpr (.inl far),
      Binary64.hypot_of_isInf (.inl infinite)⟩

end Point

namespace Path
open Coordinate (RoundAlike FarApart Short)

def measured (points : List (Point Coordinate)) : Except PathError (List Float) := do
  let (xs, ys) ← coordinates points
  segmentLengths xs ys

variable {points : List (Point Coordinate)} {lengths : List Float}

theorem embedAll_eq_ok {read : Point Coordinate → Coordinate} {values : List Float}
    (sent : embedAll (points.map read) = .ok values) :
    values.length = points.length ∧ ∀ (i : ℕ) (within : i < points.length)
      (below : i < values.length), (read points[i]).toFloat? = some values[i] := by
  have each := forall₂_of_mapM sent
  rw [List.forall₂_map_left_iff] at each
  exact ⟨each.length_eq.symm, fun i within below => embed_eq_ok (each.get within below)⟩

theorem coordinates_eq_ok {xs ys : List Float} (read : coordinates points = .ok (xs, ys)) :
    xs.length = points.length ∧ ys.length = points.length ∧
      ∀ (i : ℕ) (within : i < points.length) (belowX : i < xs.length) (belowY : i < ys.length),
        points[i].Rounds ⟨xs[i], ys[i]⟩ := by
  obtain ⟨x, readX, rest⟩ := bind_eq_ok read
  obtain ⟨y, readY, made⟩ := bind_eq_ok rest
  obtain ⟨rfl, rfl⟩ := Prod.mk.inj (Except.ok.inj made)
  obtain ⟨sizeX, eachX⟩ := embedAll_eq_ok (mapError_eq_ok readX)
  obtain ⟨sizeY, eachY⟩ := embedAll_eq_ok (mapError_eq_ok readY)
  exact ⟨sizeX, sizeY, fun i within belowX belowY =>
    ⟨eachX i within belowX, eachY i within belowY⟩⟩

theorem measured_eq_error_iff (points : List (Point Coordinate)) :
    (∃ e, measured points = .error e) ↔
      ∃ p ∈ points, p.x.toFloat? = none ∨ p.y.toFloat? = none := by
  constructor
  · rintro ⟨e, refused⟩
    by_contra! fine
    have within {read : Point Coordinate → Coordinate}
        (bounded : ∀ p ∈ points, (read p).toFloat? ≠ none) : Embedded Float (points.map read) := by
      intro x member
      obtain ⟨p, among, rfl⟩ := List.mem_map.mp member
      exact Option.isSome_iff_ne_none.mpr (bounded p among)
    obtain ⟨⟨xs, ys⟩, read, sizeX, sizeY⟩ := coordinates_ok
      (within fun p among => (fine p among).1) (within fun p among => (fine p among).2)
    obtain ⟨lengths, sent, _⟩ := segmentLengths_ok (sizeX.trans sizeY.symm)
    rw [measured, read] at refused
    exact nomatch refused.symm.trans sent
  · rintro ⟨p, member, absent⟩
    cases sent : measured points with
    | error e => exact ⟨e, rfl⟩
    | ok lengths =>
      obtain ⟨⟨xs, ys⟩, read, -⟩ := bind_eq_ok sent
      obtain ⟨sizeX, sizeY, each⟩ := coordinates_eq_ok read
      obtain ⟨i, within, rfl⟩ := List.getElem_of_mem member
      have rounds := each i within (sizeX ▸ within) (sizeY ▸ within)
      rw [rounds.x, rounds.y] at absent
      exact absurd absent (by simp)

theorem lengths_of_measured (sent : measured points = .ok lengths) :
    lengths.length = points.length - 1 ∧
      ∀ (i : ℕ) (below : i + 1 < points.length) (within : i < lengths.length),
        ∃ r s, points[i].Rounds r ∧ points[i + 1].Rounds s ∧
          r.roundedDistance s = .ok lengths[i] := by
  obtain ⟨⟨xs, ys⟩, read, sent⟩ := bind_eq_ok sent
  obtain ⟨sizeX, sizeY, each⟩ := coordinates_eq_ok read
  obtain ⟨-, rfl⟩ := segmentLengths_eq_ok sent
  refine ⟨?_, fun i below within => ?_⟩
  · rw [List.length_zipWith, length_steps, length_steps, sizeX, sizeY, min_self]
  · have first := Nat.lt_of_succ_lt below
    refine ⟨_, _, each i first (sizeX ▸ first) (sizeY ▸ first),
      each (i + 1) below (sizeX ▸ below) (sizeY ▸ below), ?_⟩
    rw [Point.roundedDistance_eq, List.getElem_zipWith, getElem_steps, getElem_steps]

/-- The lengths of a path's segments are the distances between its points, and there are none
exactly if one of these distances is missing. -/
structure MeasuredAlike (points : List (Point Coordinate)) : Prop where
  refused : (∃ e, measured points = .error e) ↔
    ∃ (i : ℕ) (below : i + 1 < points.length), ∃ e, points[i].distance points[i + 1] = .error e
  lengths : ∀ lengths, measured points = .ok lengths → lengths.length = points.length - 1 ∧
    ∀ (i : ℕ) (below : i + 1 < points.length) (within : i < lengths.length),
      points[i].distance points[i + 1] = .ok lengths[i]

theorem measuredAlike_of_short (short : ∀ p ∈ points, p.x.Short ∧ p.y.Short) :
    MeasuredAlike points := by
  have near (i : ℕ) (below : i + 1 < points.length) :
      ¬∃ e, points[i].distance points[i + 1] = .error e := by
    obtain ⟨shortX, shortY⟩ := short _ (List.getElem_mem (Nat.lt_of_succ_lt below))
    obtain ⟨shortX', shortY'⟩ := short _ (List.getElem_mem below)
    rw [Point.distance_eq_error_iff]
    exact not_or.mpr ⟨shortX'.not_farApart shortX, shortY'.not_farApart shortY⟩
  have all : ¬∃ e, measured points = .error e := by
    rw [measured_eq_error_iff]
    rintro ⟨p, member, absent⟩
    obtain ⟨a, found⟩ := (short p member).1.exists_double
    obtain ⟨b, found'⟩ := (short p member).2.exists_double
    rw [found, found'] at absent
    exact absurd absent (by simp)
  refine ⟨iff_of_false all fun ⟨i, below, refused⟩ => near i below refused, fun lengths sent => ?_⟩
  obtain ⟨size, each⟩ := lengths_of_measured sent
  refine ⟨size, fun i below within => ?_⟩
  obtain ⟨shortX, shortY⟩ := short _ (List.getElem_mem (Nat.lt_of_succ_lt below))
  obtain ⟨shortX', shortY'⟩ := short _ (List.getElem_mem below)
  obtain ⟨r, s, first, second, length⟩ := each i below within
  exact (Point.distance_of_roundAlike first second length (shortX'.roundAlike shortX)
    (shortY'.roundAlike shortY)).resolve_right fun ⟨refused, _⟩ => near i below refused

/-- The lengths of a path's segments, measured along the axes from rounded coordinates, beside the
distances between its points. There are none exactly if a coordinate has no double, and no distance
exactly if a difference has none. A length is the distance between the doubles of two points, and so
that of the points wherever rounding makes no difference to their coordinates, or infinite if there
is none. On a path with short coordinates lengths and distances agree throughout. -/
theorem segments_measured (points : List (Point Coordinate)) :
    ((∃ e, measured points = .error e) ↔
        ∃ p ∈ points, p.x.toFloat? = none ∨ p.y.toFloat? = none) ∧
      (∀ (i : ℕ) (below : i + 1 < points.length),
        (∃ e, points[i].distance points[i + 1] = .error e) ↔
          FarApart points[i + 1].x points[i].x ∨ FarApart points[i + 1].y points[i].y) ∧
      (∀ lengths, measured points = .ok lengths → lengths.length = points.length - 1 ∧
        ∀ (i : ℕ) (below : i + 1 < points.length) (within : i < lengths.length),
          (∃ r s, points[i].Rounds r ∧ points[i + 1].Rounds s ∧
            r.roundedDistance s = .ok lengths[i]) ∧
          (RoundAlike points[i + 1].x points[i].x → RoundAlike points[i + 1].y points[i].y →
            points[i].distance points[i + 1] = .ok lengths[i] ∨
              (∃ e, points[i].distance points[i + 1] = .error e) ∧ lengths[i].isInf = true)) ∧
      ((∀ p ∈ points, p.x.Short ∧ p.y.Short) → MeasuredAlike points) := by
  refine ⟨measured_eq_error_iff points, fun i below => Point.distance_eq_error_iff _ _,
    fun lengths sent => ?_, measuredAlike_of_short⟩
  obtain ⟨size, each⟩ := lengths_of_measured sent
  refine ⟨size, fun i below within => ⟨each i below within, fun alikeX alikeY => ?_⟩⟩
  obtain ⟨r, s, first, second, length⟩ := each i below within
  exact Point.distance_of_roundAlike first second length alikeX alikeY

/-- Whole numbers of more than 53 binary digits may be a step apart and have the same double. -/
theorem step_lost :
    ¬MeasuredAlike [⟨.whole (2 ^ 53 + 1), .whole 0⟩, ⟨.whole (2 ^ 53), .whole 0⟩] := by
  intro alike
  have sent : measured [⟨.whole (2 ^ 53 + 1), .whole 0⟩, ⟨.whole (2 ^ 53), .whole 0⟩] =
      .ok [0.0] := by decide +kernel
  have apart : Point.distance ⟨.whole (2 ^ 53 + 1), .whole 0⟩ ⟨.whole (2 ^ 53), .whole 0⟩ =
      .ok 1.0 := by decide +kernel
  obtain ⟨-, each⟩ := alike.lengths _ sent
  have same : (1.0 : Float) = 0 := Except.ok.inj (apart.symm.trans (each 0 (by decide) (by decide)))
  exact absurd same (by decide +kernel)

end Path
end GestureLexicon
