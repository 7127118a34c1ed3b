import GestureLexicon.Proofs.Traversal
import GestureLexicon.Proofs.Widths

/-!
Steps that keep the length of a line. What a step does to a band or to each of several pieces
carries over to the line that these are taken from, and a step that can be undone on them can be
undone on the line. Nothing is assumed of the entries.
-/

namespace GestureLexicon
variable {α β γ ε : Type}

/-- Every line of a length goes to a line of the same length that stands in a relation to it. -/
def Sends (length : Nat) (step : List α → Except TransformError (List α))
    (related : List α → List α → Prop) : Prop :=
  ∀ xs, xs.length = length → ∃ ys, step xs = .ok ys ∧ ys.length = length ∧ related xs ys

abbrev Keeps (length : Nat) (step : List α → Except TransformError (List α)) : Prop :=
  Sends length step fun _ _ => True

/-- Every line of a length goes to one of the same length that another step sends back to it. -/
abbrev Undoes (length : Nat) (there back : List α → Except TransformError (List α)) : Prop :=
  Sends length there fun xs ys => back ys = .ok xs

/-- A relation for every width of a list, from one line to the next. -/
def Along (through : Nat → List α → List α → Prop) : List Nat → List α → List α → Prop
  | [], xs, ys => ys = xs
  | width :: widths, xs, ys => ∃ zs, through width xs zs ∧ Along through widths zs ys

theorem Along.undone {fro : List α → Nat → Except TransformError (List α)} {widths : List Nat}
    {xs ys : List α} (along : Along (fun width xs ys => fro ys width = .ok xs) widths xs ys) :
    widths.reverse.foldlM fro ys = .ok xs := by
  induction widths generalizing xs with
  | nil => exact congrArg Except.ok along
  | cons width widths ih =>
    obtain ⟨zs, undone, rest⟩ := along
    rw [List.reverse_cons, List.foldlM_append, ih rest]
    change fro zs width >>= pure = _
    rw [undone]
    rfl

def onPieces (step : List α → Except TransformError (List α)) (sizes : List Nat) (xs : List α) :
    Except TransformError (List α) := do
  return (← (sizes.splitLengths xs).mapM step).flatten

theorem onPieces_cons (step : List α → Except TransformError (List α)) (size : Nat)
    (sizes : List Nat) (xs : List α) :
    onPieces step (size :: sizes) xs = do
      let first ← step (xs.take size)
      let rest ← onPieces step sizes (xs.drop size)
      return first ++ rest := by
  simp only [onPieces, List.splitLengths_cons, List.mapM_cons, bind_assoc, pure_bind,
    List.flatten_cons]

theorem flatten_blocks {size : Nat} (positive : 0 < size) (xs : List β) :
    (blocks size xs).flatten = xs := by
  fun_induction blocks size xs with
  | case1 xs _ ih => rw [List.flatten_cons, ih, List.take_append_drop]
  | case2 xs stop =>
    obtain rfl : xs = [] := by_contra fun nonempty => stop ⟨positive, nonempty⟩
    rfl

/-- Blocks of a size that divides the line are pieces of that size. -/
theorem blocks_eq_splitLengths {size : Nat} (positive : 0 < size) (xs : List β)
    (divides : size ∣ xs.length) :
    blocks size xs = (List.replicate (xs.length / size) size).splitLengths xs := by
  fun_induction blocks size xs with
  | case1 xs cut ih =>
    obtain ⟨count, length⟩ := divides
    obtain ⟨less, rfl⟩ : ∃ less, count = less + 1 := by
      cases count with
      | zero => exact absurd (List.length_eq_zero_iff.mp length) cut.2
      | succ less => exact ⟨less, rfl⟩
    have dropped : (xs.drop size).length = size * less := by
      rw [List.length_drop, length, Nat.mul_succ, Nat.add_sub_cancel]
    rw [ih ⟨less, dropped⟩, dropped, length, Nat.mul_div_cancel_left _ positive,
      Nat.mul_div_cancel_left _ positive, List.replicate_succ, List.splitLengths_cons]
  | case2 xs stop =>
    obtain rfl : xs = [] := by_contra fun nonempty => stop ⟨positive, nonempty⟩
    simp

theorem onBlocks_eq_onPieces (step : List α → Except TransformError (List α)) {width : Nat}
    (positive : 0 < width) {xs : List α} (divides : width ∣ xs.length) :
    Wavelet.onBlocks step xs width =
      onPieces step (List.replicate (xs.length / width) width) xs := by
  rw [Wavelet.onBlocks, onPieces, blocks_eq_splitLengths positive xs divides]

def onPart (step : List α → Option Int → Except TransformError (List α)) (level : Option Int)
    (piece : List α) : Except TransformError (List α) :=
  if piece.length = 1 then .ok piece else step piece level

/-- The parts that are laid out from an offset on are the pieces of what follows it. -/
theorem mapM_layOut (step : List α → Option Int → Except TransformError (List α))
    (level : Option Int) (xs : List α) (exponents : List Nat) {offset : Nat}
    (fits : offset + (exponents.map Multipliers.power).sum ≤ xs.length) :
    ((Multipliers.layOut offset exponents).mapM fun (start, size) =>
        let piece := (xs.drop start).take size
        if size = 1 then Except.ok piece else step piece level) =
      ((exponents.map Multipliers.power).splitLengths (xs.drop offset)).mapM
        (onPart step level) := by
  induction exponents generalizing offset with
  | nil => rfl
  | cons p exponents ih =>
    rw [List.map_cons, List.sum_cons] at fits
    have whole : ((xs.drop offset).take (Multipliers.power p)).length = Multipliers.power p := by
      rw [List.length_take, List.length_drop]
      omega
    have rest := @ih (offset + Multipliers.power p) (by omega)
    simp only [Multipliers.layOut, List.map_cons, List.splitLengths_cons, List.mapM_cons,
      List.drop_drop, rest, onPart, whole]

theorem onParts_eq_onPieces (step : List α → Option Int → Except TransformError (List α))
    {xs : List α} (positive : 0 < xs.length) (level : Option Int) :
    LineTransform.onParts step xs level =
      onPieces (onPart step level) (Multipliers.sizes xs.length) xs := by
  have total := Multipliers.sum_sizes xs.length
  have pieces := mapM_layOut step level xs (Multipliers.ofNat xs.length)
    (by rw [Nat.zero_add]; exact total.le)
  rw [LineTransform.onParts, if_neg (by simpa [List.length_pos_iff] using positive), onPieces,
    Multipliers.parts, pieces, List.drop_zero, Multipliers.sizes]

theorem onParts_eq_onPart (step : List α → Option Int → Except TransformError (List α))
    {xs : List α} (power : xs.length.isPowerOfTwo) (level : Option Int) :
    LineTransform.onParts step xs level = onPart step level xs := by
  rw [onParts_eq_onPieces step (Nat.pos_of_isPowerOfTwo power)]
  obtain ⟨m, size⟩ := power
  rw [size, Multipliers.sizes_two_pow, onPieces_cons, ← size, List.take_length, List.drop_length]
  cases onPart step level xs with
  | error e => rfl
  | ok ys => exact congrArg Except.ok (List.append_nil ys)

namespace Sends
variable {length width : Nat} {step : List α → Except TransformError (List α)}
  {related weaker : List α → List α → Prop}

theorem mono (sends : Sends length step related)
    (implied : ∀ xs ys, xs.length = length → ys.length = length → related xs ys → weaker xs ys) :
    Sends length step weaker := by
  intro xs size
  obtain ⟨ys, sent, kept, holds⟩ := sends xs size
  exact ⟨ys, sent, kept, implied xs ys size kept holds⟩

theorem congr {same : List α → Except TransformError (List α)} (sends : Sends length step related)
    (equal : ∀ xs, xs.length = length → same xs = step xs) : Sends length same related := by
  intro xs size
  rw [equal xs size]
  exact sends xs size

theorem keeps (sends : Sends length step related) : Keeps length step :=
  sends.mono fun _ _ _ _ _ => trivial

theorem onLeading (sends : Sends width step related) (fits : width ≤ length) :
    Sends length (Wavelet.onLeading step · width) fun xs ys =>
      related (xs.take width) (ys.take width) ∧ ys.drop width = xs.drop width := by
  intro xs size
  obtain ⟨band, sent, kept, holds⟩ := sends (xs.take width) (by rw [List.length_take]; omega)
  refine ⟨band ++ xs.drop width, ?_, ?_, ?_, ?_⟩
  · simp only [Wavelet.onLeading, sent]
    rfl
  · rw [List.length_append, List.length_drop, kept]
    omega
  · rw [← kept, List.take_left, kept]
    exact holds
  · rw [← kept, List.drop_left]

theorem onPieces {sizes : List Nat} (sends : ∀ size ∈ sizes, Sends size step related) :
    Sends sizes.sum (onPieces step sizes) fun xs ys =>
      List.Forall₂ related (sizes.splitLengths xs) (sizes.splitLengths ys) := by
  induction sizes with
  | nil =>
    intro xs size
    exact ⟨[], rfl, rfl, .nil⟩
  | cons size sizes ih =>
    intro xs total
    rw [List.sum_cons] at total ⊢
    obtain ⟨first, sent, kept, holds⟩ :=
      sends size List.mem_cons_self (xs.take size) (by rw [List.length_take]; omega)
    obtain ⟨rest, sentRest, keptRest, holdRest⟩ :=
      ih (fun _ member => sends _ (List.mem_cons_of_mem _ member)) (xs.drop size)
        (by rw [List.length_drop]; omega)
    refine ⟨first ++ rest, ?_, by rw [List.length_append, kept, keptRest], ?_⟩
    · rw [onPieces_cons, sent, sentRest]
      rfl
    · simp only [List.splitLengths_cons, ← kept, List.take_left, List.drop_left]
      exact .cons (kept.symm ▸ holds) (kept.symm ▸ holdRest)

theorem onBlocks (sends : Sends width step related) (positive : 0 < width)
    (divides : width ∣ length) :
    Sends length (Wavelet.onBlocks step · width) fun xs ys =>
      List.Forall₂ related (blocks width xs) (blocks width ys) := by
  have total : (List.replicate (length / width) width).sum = length := by
    rw [List.sum_replicate, smul_eq_mul, Nat.div_mul_cancel divides]
  have equal : ∀ size ∈ List.replicate (length / width) width, Sends size step related :=
    fun size member => (List.eq_of_mem_replicate member).symm ▸ sends
  have pieces := Sends.onPieces equal
  rw [total] at pieces
  refine (pieces.mono fun xs ys size kept each => ?_).congr fun xs size => ?_
  · rwa [blocks_eq_splitLengths positive xs (size ▸ divides),
      blocks_eq_splitLengths positive ys (kept ▸ divides), size, kept]
  · rw [onBlocks_eq_onPieces step positive (size ▸ divides), size]

theorem onParts {step : List α → Option Int → Except TransformError (List α)}
    {level : Option Int} (positive : 0 < length)
    (sends : ∀ size ∈ Multipliers.sizes length, size ≠ 1 → Sends size (step · level) related)
    (single : ∀ x, related [x] [x]) :
    Sends length (LineTransform.onParts step · level) fun xs ys =>
      List.Forall₂ related ((Multipliers.sizes length).splitLengths xs)
        ((Multipliers.sizes length).splitLengths ys) := by
  have each : ∀ size ∈ Multipliers.sizes length, Sends size (onPart step level) related := by
    intro size member xs sized
    by_cases one : size = 1
    · obtain ⟨x, rfl⟩ := List.length_eq_one_iff.mp (sized.trans one)
      exact ⟨[x], rfl, sized, single x⟩
    · rw [onPart, sized, if_neg one]
      exact sends size member one xs sized
  have pieces := Sends.onPieces each
  rw [Multipliers.sum_sizes] at pieces
  refine pieces.congr fun xs size => ?_
  rw [onParts_eq_onPieces step (by omega), size]

theorem foldlM {pass : List α → Nat → Except TransformError (List α)}
    {through : Nat → List α → List α → Prop} {widths : List Nat}
    (sends : ∀ width ∈ widths, Sends length (pass · width) (through width)) :
    Sends length (widths.foldlM pass ·) (Along through widths) := by
  induction widths with
  | nil => exact fun xs size => ⟨xs, rfl, size, rfl⟩
  | cons width widths ih =>
    intro xs size
    obtain ⟨ys, sent, kept, holds⟩ := sends width List.mem_cons_self xs size
    obtain ⟨zs, sentRest, keptRest, holdRest⟩ :=
      ih (fun _ member => sends _ (List.mem_cons_of_mem _ member)) ys kept
    refine ⟨zs, ?_, keptRest, ys, holds, holdRest⟩
    change pass xs width >>= (widths.foldlM pass ·) = .ok zs
    rw [show pass xs width = .ok ys from sent]
    exact sentRest

end Sends

namespace Undoes
variable {length width : Nat} {there back : List α → Except TransformError (List α)}

theorem onLeading (undoes : Undoes width there back) (fits : width ≤ length) :
    Undoes length (Wavelet.onLeading there · width) (Wavelet.onLeading back · width) := by
  refine (Sends.onLeading undoes fits).mono fun xs ys _ _ ⟨undone, kept⟩ => ?_
  simp only [Wavelet.onLeading, undone, kept]
  exact congrArg Except.ok (List.take_append_drop width xs)

theorem congr {forth fro : List α → Except TransformError (List α)}
    (undoes : Undoes length there back) (equal : ∀ xs, xs.length = length → forth xs = there xs)
    (equalBack : ∀ xs, xs.length = length → fro xs = back xs) : Undoes length forth fro :=
  (Sends.congr undoes equal).mono fun _ ys _ kept undone => (equalBack ys kept).trans undone

theorem onBlocks (undoes : Undoes width there back) (positive : 0 < width)
    (divides : width ∣ length) :
    Undoes length (Wavelet.onBlocks there · width) (Wavelet.onBlocks back · width) := by
  refine (Sends.onBlocks undoes positive divides).mono fun xs ys _ _ each => ?_
  simp only [Wavelet.onBlocks, mapM_of_forall₂ (f := back) each.flip]
  exact congrArg Except.ok (flatten_blocks positive xs)

theorem onParts {there back : List α → Option Int → Except TransformError (List α)}
    {level : Option Int} (positive : 0 < length)
    (undoes : ∀ size ∈ Multipliers.sizes length, Undoes size (there · level) (back · level)) :
    Undoes length (LineTransform.onParts there · level) (LineTransform.onParts back · level) := by
  have several : ∀ size ∈ Multipliers.sizes length, size ≠ 1 →
      Sends size (there · level) fun xs ys => onPart back level ys = .ok xs := by
    intro size member more
    refine (undoes size member).mono fun xs ys _ kept undone => ?_
    rw [onPart, if_neg (kept ▸ more)]
    exact undone
  refine (Sends.onParts positive several fun _ => rfl).mono fun xs ys _ kept each => ?_
  have total := Multipliers.sum_sizes length
  change LineTransform.onParts back ys level = .ok xs
  rw [onParts_eq_onPieces back (by omega), kept, onPieces,
    mapM_of_forall₂ (f := onPart back level) each.flip]
  exact congrArg Except.ok (List.flatten_splitLengths xs _ (by omega))

theorem foldlM {forth fro : List α → Nat → Except TransformError (List α)} {widths : List Nat}
    (undoes : ∀ width ∈ widths, Undoes length (forth · width) (fro · width)) :
    Undoes length (widths.foldlM forth ·) (widths.reverse.foldlM fro ·) := by
  exact (Sends.foldlM undoes).mono fun _ _ _ _ along => along.undone

end Undoes

end GestureLexicon
