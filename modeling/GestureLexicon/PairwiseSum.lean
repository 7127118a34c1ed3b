/-!
The sum of a list in a fixed order of additions, which keeps the rounding error of long sums small.
Up to 7 terms are added from the left; up to 128 go to eight running totals that are joined in a
tree; a longer list is cut near its middle, at a multiple of eight, and both parts are summed so.
-/

namespace GestureLexicon
variable {α : Type} [Add α]

/-- Adds whole blocks of eight to eight running totals, joins the totals, and then adds what is left
of the list from the left. -/
def laneSum (r0 r1 r2 r3 r4 r5 r6 r7 : α) : List α → α
  | x0 :: x1 :: x2 :: x3 :: x4 :: x5 :: x6 :: x7 :: rest =>
    laneSum (r0 + x0) (r1 + x1) (r2 + x2) (r3 + x3) (r4 + x4) (r5 + x5) (r6 + x6) (r7 + x7) rest
  | rest => rest.foldl (· + ·) (((r0 + r1) + (r2 + r3)) + ((r4 + r5) + (r6 + r7)))

variable [Zero α]

def leftSum : List α → α
  | [] => 0
  | x :: rest => rest.foldl (· + ·) x

def blockSum : List α → α
  | x0 :: x1 :: x2 :: x3 :: x4 :: x5 :: x6 :: x7 :: rest => laneSum x0 x1 x2 x3 x4 x5 x6 x7 rest
  | short => leftSum short

def pairwiseSum (xs : List α) : α :=
  if xs.length ≤ 128 then blockSum xs
  else
    let cut := xs.length / 2 / 8 * 8
    pairwiseSum (xs.take cut) + pairwiseSum (xs.drop cut)
termination_by xs.length
decreasing_by all_goals simp only [List.length_take, List.length_drop]; omega

end GestureLexicon
