import GestureLexicon.Proofs.Acceptance
import GestureLexicon.Proofs.Exponents
import GestureLexicon.Proofs.Reversal

/-!
The parts of a line. They follow one another without a gap, are powers of two that fall, and each
stands at a multiple of its size. A decomposed transform sends every part to what the transform
makes of it and nothing else, so a coefficient depends on the part that holds it, and a vector on as
many samples as the first part has if it keeps no more coefficients. Main statement:
`decomposed_by_parts`.
-/

namespace GestureLexicon
variable {α : Type}

abbrev Holds (k : ℕ) (part : ℕ × ℕ) : Prop :=
  part.1 ≤ k ∧ k < part.1 + part.2

/-- Parts that follow one another without a gap from a start to a stop. -/
def Contiguous : ℕ → List (ℕ × ℕ) → ℕ → Prop
  | start, [], stop => start = stop
  | start, part :: parts, stop => part.1 = start ∧ Contiguous (start + part.2) parts stop

namespace Contiguous
variable {start stop : ℕ} {parts : List (ℕ × ℕ)}

theorem bounds (contiguous : Contiguous start parts stop) :
    start ≤ stop ∧ ∀ part ∈ parts, start ≤ part.1 ∧ part.1 + part.2 ≤ stop := by
  induction parts generalizing start with
  | nil => exact ⟨contiguous.le, List.forall_mem_nil _⟩
  | cons part parts ih =>
    obtain ⟨rfl, rest⟩ := contiguous
    obtain ⟨within, later⟩ := ih rest
    refine ⟨by omega, List.forall_mem_cons.mpr ⟨⟨le_rfl, within⟩, fun other member => ?_⟩⟩
    obtain ⟨after, before⟩ := later other member
    exact ⟨by omega, before⟩

/-- No part reaches into a later one. -/
theorem apart (contiguous : Contiguous start parts stop) :
    parts.Pairwise fun first second => first.1 + first.2 ≤ second.1 := by
  induction parts generalizing start with
  | nil => exact .nil
  | cons part parts ih =>
    obtain ⟨rfl, rest⟩ := contiguous
    exact .cons (fun other member => (rest.bounds.2 other member).1) (ih rest)

theorem countP_holds (contiguous : Contiguous start parts stop) (k : ℕ) :
    parts.countP (Holds k ·) = if start ≤ k ∧ k < stop then 1 else 0 := by
  induction parts generalizing start with
  | nil =>
    obtain rfl : start = stop := contiguous
    rw [if_neg (by omega), List.countP_nil]
  | cons part parts ih =>
    obtain ⟨rfl, rest⟩ := contiguous
    obtain ⟨within, _⟩ := rest.bounds
    rw [List.countP_cons, ih rest]
    simp only [decide_eq_true_eq, Holds]
    split_ifs <;> omega

end Contiguous

namespace Multipliers

theorem contiguous_layOut (offset : ℕ) (exponents : List ℕ) :
    Contiguous offset (layOut offset exponents) (offset + (exponents.map power).sum) := by
  induction exponents generalizing offset with
  | nil => rfl
  | cons p exponents ih =>
    rw [List.map_cons, List.sum_cons, ← Nat.add_assoc]
    exact ⟨rfl, ih (offset + power p)⟩

theorem map_snd_layOut (offset : ℕ) (exponents : List ℕ) :
    (layOut offset exponents).map Prod.snd = exponents.map power := by
  induction exponents generalizing offset with
  | nil => rfl
  | cons p exponents ih => rw [layOut, List.map_cons, List.map_cons, ih]

theorem dvd_layOut {offset : ℕ} {exponents : List ℕ} (falling : exponents.Pairwise (· > ·))
    (aligned : ∀ p ∈ exponents, 2 ^ p ∣ offset) :
    ∀ part ∈ layOut offset exponents, part.2 ∣ part.1 := by
  induction exponents generalizing offset with
  | nil => exact List.forall_mem_nil _
  | cons p exponents ih =>
    obtain ⟨smaller, falling⟩ := List.pairwise_cons.mp falling
    obtain ⟨own, others⟩ := List.forall_mem_cons.mp aligned
    refine List.forall_mem_cons.mpr ⟨by rwa [power_eq], ih falling fun q member => ?_⟩
    rw [power_eq]
    exact (others q member).add (pow_dvd_pow 2 (smaller q member).le)

theorem ofNat_eq_cons {n : ℕ} (nonzero : n ≠ 0) : ofNat n = n.log2 :: below n n.log2 := by
  rw [ofNat, below, if_pos (Nat.testBit_log2 nonzero)]

theorem isGreatest_two_pow_log2 {n : ℕ} (nonzero : n ≠ 0) :
    IsGreatest {size : ℕ | size.isPowerOfTwo ∧ size ≤ n} (2 ^ n.log2) := by
  refine ⟨⟨⟨_, rfl⟩, Nat.log2_self_le nonzero⟩, ?_⟩
  rintro _ ⟨⟨p, rfl⟩, within⟩
  exact Nat.pow_le_pow_right two_pos ((Nat.le_log2 nonzero).mpr within)

/-- Parts that cut a line of a length into powers of two, each at a multiple of its size, from the
largest that there can be on. -/
structure CutsByPowers (length : ℕ) (parts : List (ℕ × ℕ)) : Prop where
  contiguous : Contiguous 0 parts length
  apart : parts.Pairwise fun first second => first.1 + first.2 ≤ second.1
  once : ∀ k, parts.countP (Holds k ·) = if k < length then 1 else 0
  power : ∀ part ∈ parts, part.2.isPowerOfTwo
  falling : parts.Pairwise fun first second => second.2 < first.2
  largest : ∃ size rest, parts = (0, size) :: rest ∧
    IsGreatest {size : ℕ | size.isPowerOfTwo ∧ size ≤ length} size
  aligned : ∀ part ∈ parts, part.2 ∣ part.1

theorem map_snd_parts (length : ℕ) : (parts length).map Prod.snd = sizes length :=
  map_snd_layOut 0 _

theorem contiguous_parts (length : ℕ) : Contiguous 0 (parts length) length := by
  have contiguous := contiguous_layOut 0 (ofNat length)
  rwa [Nat.zero_add, ← sizes, sum_sizes] at contiguous

theorem cutsByPowers_parts {length : ℕ} (nonzero : length ≠ 0) :
    CutsByPowers length (parts length) := by
  have contiguous := contiguous_parts length
  have sizes_eq := map_snd_parts length
  have exponents : (ofNat length).Pairwise (· > ·) := (sortedGT_below length _).pairwise
  refine ⟨contiguous, contiguous.apart, fun k => ?_, fun part member => ?_, ?_, ?_, ?_⟩
  · rw [contiguous.countP_holds]
    simp only [Nat.zero_le, true_and]
  · exact isPowerOfTwo_of_mem_sizes (sizes_eq ▸ List.mem_map_of_mem member)
  · have falling : (sizes length).Pairwise (· > ·) := by
      refine exponents.map _ fun p q smaller => ?_
      rw [power_eq, power_eq]
      exact Nat.pow_lt_pow_right one_lt_two smaller
    rw [← sizes_eq, List.pairwise_map] at falling
    exact falling
  · refine ⟨2 ^ length.log2, layOut (0 + power length.log2) (below length length.log2), ?_,
      isGreatest_two_pow_log2 nonzero⟩
    rw [parts, ofNat_eq_cons nonzero, layOut, ← power_eq]
  · exact dvd_layOut exponents fun p _ => dvd_zero _

end Multipliers

def slice (part : ℕ × ℕ) (xs : List α) : List α :=
  (xs.drop part.1).take part.2

theorem length_slice {part : ℕ × ℕ} {xs : List α} (within : part.1 + part.2 ≤ xs.length) :
    (slice part xs).length = part.2 := by
  rw [slice, List.length_take, List.length_drop]
  omega

theorem getElem?_slice {k : ℕ} {part : ℕ × ℕ} (xs : List α) (holds : Holds k part) :
    (slice part xs)[k - part.1]? = xs[k]? := by
  rw [slice, List.getElem?_take_of_lt (by omega), List.getElem?_drop]
  congr 1
  omega

theorem slice_congr {part : ℕ × ℕ} {xs xs' : List α}
    (agree : ∀ k, Holds k part → xs[k]? = xs'[k]?) : slice part xs = slice part xs' := by
  apply List.ext_getElem?
  intro i
  rw [slice, slice, List.getElem?_take, List.getElem?_take]
  split
  · rw [List.getElem?_drop, List.getElem?_drop]
    exact agree _ ⟨by omega, by omega⟩
  · rfl

namespace Contiguous
variable {start : ℕ} {parts : List (ℕ × ℕ)} {xs : List α}

theorem flatten_slices (contiguous : Contiguous start parts xs.length) :
    (parts.map (slice · xs)).flatten = xs.drop start := by
  induction parts generalizing start with
  | nil =>
    obtain rfl : start = xs.length := contiguous
    rw [List.drop_length]
    rfl
  | cons part parts ih =>
    obtain ⟨rfl, rest⟩ := contiguous
    rw [List.map_cons, List.flatten_cons, ih rest, slice, ← List.drop_drop, List.take_append_drop]

theorem slices_flatten {stop : ℕ} {before : List α} {pieces : List (List α)}
    (contiguous : Contiguous before.length parts stop)
    (sized : List.Forall₂ (fun part piece => piece.length = part.2) parts pieces) :
    (before ++ pieces.flatten).length = stop ∧
      pieces = parts.map (slice · (before ++ pieces.flatten)) := by
  induction sized generalizing before with
  | nil =>
    obtain rfl : before.length = stop := contiguous
    exact ⟨congrArg List.length (List.append_nil before), rfl⟩
  | @cons part piece parts pieces size _ ih =>
    obtain ⟨offset, rest⟩ := contiguous
    rw [← size, ← List.length_append] at rest
    obtain ⟨total, held⟩ := ih rest
    rw [List.append_assoc] at total held
    have own : slice part (before ++ (piece ++ pieces.flatten)) = piece := by
      rw [slice, offset, ← size, List.drop_left, List.take_left]
    rw [List.flatten_cons, List.map_cons, own]
    exact ⟨total, congrArg _ held⟩

end Contiguous

def overwrite (offset : ℕ) (piece xs : List α) : List α :=
  xs.take offset ++ piece ++ xs.drop (offset + piece.length)

theorem length_overwrite {offset : ℕ} {piece xs : List α}
    (within : offset + piece.length ≤ xs.length) :
    (overwrite offset piece xs).length = xs.length := by
  simp only [overwrite, List.length_append, List.length_take, List.length_drop]
  omega

theorem take_overwrite {offset : ℕ} {piece xs : List α}
    (within : offset + piece.length ≤ xs.length) :
    (overwrite offset piece xs).take (offset + piece.length) = xs.take offset ++ piece := by
  refine List.take_left' ?_
  rw [List.length_append, List.length_take]
  omega

/-- Whatever a step gives anything for keeps its length. -/
def KeepsLength (step : List α → Except TransformError (List α)) : Prop :=
  ∀ xs ys, step xs = .ok ys → ys.length = xs.length

section
variable (step : List α → Except TransformError (List α)) (xs : List α)

def onSlice (part : ℕ × ℕ) : Except TransformError (List α) :=
  if part.2 = 1 then .ok (slice part xs) else step (slice part xs)

def writeParts (parts : List (ℕ × ℕ)) (buffer : List α) : Except TransformError (List α) :=
  parts.foldlM (fun buffer part => return overwrite part.1 (← onSlice step xs part) buffer) buffer

variable {step xs} {start : ℕ} {parts : List (ℕ × ℕ)}

theorem length_onSlice (kept : KeepsLength step) {part : ℕ × ℕ} {piece : List α}
    (within : part.1 + part.2 ≤ xs.length) (sent : onSlice step xs part = .ok piece) :
    piece.length = part.2 := by
  rw [onSlice] at sent
  split at sent
  · obtain rfl := Except.ok.inj sent
    exact length_slice within
  · exact (kept _ _ sent).trans (length_slice within)

theorem mapM_onSlice_iff (kept : KeepsLength step) (contiguous : Contiguous 0 parts xs.length)
    (ys : List α) :
    (∃ pieces, parts.mapM (onSlice step xs) = .ok pieces ∧ pieces.flatten = ys) ↔
      ys.length = xs.length ∧ ∀ part ∈ parts, onSlice step xs part = .ok (slice part ys) := by
  constructor
  · rintro ⟨pieces, sent, rfl⟩
    have each := forall₂_of_mapM sent
    have sized : List.Forall₂ (fun part piece => piece.length = part.2) parts pieces :=
      (List.forall₂_and_left _ _).mpr ⟨contiguous.bounds.2, each⟩ |>.imp fun part piece both =>
        length_onSlice kept both.1.2 both.2
    have start : Contiguous ([] : List α).length parts xs.length := contiguous
    obtain ⟨total, held⟩ := start.slices_flatten sized
    rw [List.nil_append] at total held
    rw [held, List.forall₂_map_right_iff, List.forall₂_same] at each
    exact ⟨total, each⟩
  · rintro ⟨size, each⟩
    rw [← size] at contiguous
    refine ⟨parts.map (slice · ys), mapM_of_forall₂ ?_, contiguous.flatten_slices⟩
    rwa [List.forall₂_map_right_iff, List.forall₂_same]

/-- Whatever stood in the buffer, from a start on it is written over. -/
theorem writeParts_eq (kept : KeepsLength step) {buffer : List α}
    (contiguous : Contiguous start parts xs.length) (size : buffer.length = xs.length) :
    writeParts step xs parts buffer = do
      let pieces ← parts.mapM (onSlice step xs)
      return buffer.take start ++ pieces.flatten := by
  induction parts generalizing start buffer with
  | nil =>
    obtain rfl : start = xs.length := contiguous
    rw [← size, List.take_length]
    exact congrArg Except.ok (List.append_nil buffer).symm
  | cons part parts ih =>
    have within := (contiguous.bounds.2 part List.mem_cons_self).2
    obtain ⟨rfl, rest⟩ := contiguous
    rw [List.mapM_cons]
    cases sent : onSlice step xs part with
    | error e =>
      rw [writeParts, List.foldlM_cons, sent]
      rfl
    | ok piece =>
      have sized := length_onSlice kept within sent
      rw [← sized, ← size] at within
      rw [← sized] at rest
      have written := ih rest ((length_overwrite within).trans size)
      rw [take_overwrite within] at written
      rw [writeParts, List.foldlM_cons, sent]
      refine written.trans ?_
      simp only [bind_assoc, pure_bind, List.flatten_cons, List.append_assoc]
      rfl

end

namespace LineTransform
variable {t : LineTransform α} {d : Direction} {level : Option ℤ} {xs : List α}

theorem step_decomposed (t : LineTransform α) (d : Direction) (level : Option ℤ)
    (nonempty : xs ≠ []) :
    t.decomposed.step d level xs = do
      let pieces ← (Multipliers.parts xs.length).mapM (onSlice (t.step d level) xs)
      return pieces.flatten := by
  cases d with
  | forward => exact if_neg (by simpa using nonempty)
  | reverse => exact if_neg (by simpa using nonempty)

theorem step_decomposed_eq_ok (nonempty : xs ≠ []) (kept : KeepsLength (t.step d level))
    (ys : List α) :
    t.decomposed.step d level xs = .ok ys ↔ ys.length = xs.length ∧
      ∀ part ∈ Multipliers.parts xs.length,
        onSlice (t.step d level) xs part = .ok (slice part ys) := by
  rw [← mapM_onSlice_iff kept (Multipliers.contiguous_parts xs.length),
    step_decomposed t d level nonempty]
  constructor
  · intro sent
    obtain ⟨pieces, sent, made⟩ := bind_eq_ok sent
    exact ⟨pieces, sent, Except.ok.inj made⟩
  · rintro ⟨pieces, sent, rfl⟩
    rw [sent]
    rfl

/-- Lines that agree on a part agree there once they are transformed. -/
theorem slice_decomposed {xs' ys ys' : List α} {part : ℕ × ℕ} (nonempty : xs ≠ [])
    (kept : KeepsLength (t.step d level)) (size : xs'.length = xs.length)
    (member : part ∈ Multipliers.parts xs.length) (same : slice part xs = slice part xs')
    (sent : t.decomposed.step d level xs = .ok ys)
    (sent' : t.decomposed.step d level xs' = .ok ys') : slice part ys = slice part ys' := by
  have nonempty' : xs' ≠ [] := by
    rw [← List.length_pos_iff, size]
    exact List.length_pos_iff.mpr nonempty
  obtain ⟨_, each⟩ := (step_decomposed_eq_ok nonempty kept ys).mp sent
  obtain ⟨_, each'⟩ := (step_decomposed_eq_ok nonempty' kept ys').mp sent'
  rw [size] at each'
  have made := each part member
  rw [onSlice, same, ← onSlice, each' part member] at made
  exact (Except.ok.inj made).symm

end LineTransform

namespace Transform
variable [Zero α] [Add α] [Mul α] [Neg α] (t : Transform α) (level : Option ℤ)

theorem keepsLength_forward : KeepsLength (t.line.step .forward level) := by
  intro xs ys sent
  have keeps : Keeps xs.length (t.forward · level) := t.keeps_forward (accepts_of_ok sent)
  obtain ⟨out, sentAlso, kept, _⟩ := keeps xs rfl
  obtain rfl := Except.ok.inj (sent.symm.trans sentAlso)
  exact kept

end Transform

namespace Extractor
variable {κ κ' : Type} [Zero α] [Add α] [Sub α] [Neg α] [Mul α] [Div α] [Scalar α]
  {e : Extractor κ} {e' : Extractor κ'} {first : ℕ}

theorem take_forward (greatest : IsGreatest
      {size : ℕ | size.isPowerOfTwo ∧ size ≤ e.resampling.sampleCount} first)
    {xs xs' x x' : List α} (size : xs.length = e.resampling.sampleCount)
    (size' : xs'.length = e.resampling.sampleCount) (same : xs.take first = xs'.take first)
    (sent : (e.features.buildTransform : Transform α).forward xs (e.features.level.map Int.ofNat) =
      .ok x)
    (sent' : (e.features.buildTransform : Transform α).forward xs'
      (e.features.level.map Int.ofNat) = .ok x') : x.take first = x'.take first := by
  have several : 2 ≤ e.resampling.sampleCount := e.resampling.bounds.1
  have nonempty : xs ≠ [] := List.ne_nil_of_length_pos (by omega)
  obtain ⟨largest, rest, parts, isLargest⟩ :=
    (Multipliers.cutsByPowers_parts (by omega : e.resampling.sampleCount ≠ 0)).largest
  obtain rfl := isLargest.unique greatest
  have member : (0, largest) ∈ Multipliers.parts xs.length := by
    rw [size, parts]
    exact List.mem_cons_self
  obtain ⟨inner, built⟩ : ∃ inner, (e.features.buildTransform : Transform α) = .decomposed inner :=
    ⟨_, rfl⟩
  rw [built] at sent sent'
  exact LineTransform.slice_decomposed nonempty (inner.keepsLength_forward _)
    (size'.trans size.symm) member same sent sent'

theorem vector_of_take (features : e'.features = e.features)
    (greatest : IsGreatest {size : ℕ | size.isPowerOfTwo ∧ size ≤ e.resampling.sampleCount} first)
    (few : e.features.coefficientCount ≤ first) {xs ys xs' ys' : List α}
    (sizeX : xs.length = e.resampling.sampleCount) (sizeY : ys.length = e.resampling.sampleCount)
    (sizeX' : xs'.length = e.resampling.sampleCount)
    (sizeY' : ys'.length = e.resampling.sampleCount)
    (sameX : xs.take first = xs'.take first) (sameY : ys.take first = ys'.take first) :
    ∃ v, e.vector (xs, ys) = .ok v ∧ e'.vector (xs', ys') = .ok v := by
  obtain ⟨x, sentX, keptX⟩ := e.forward_ok sizeX
  obtain ⟨y, sentY, keptY⟩ := e.forward_ok sizeY
  obtain ⟨x', sentX', keptX'⟩ := e.forward_ok sizeX'
  obtain ⟨y', sentY', keptY'⟩ := e.forward_ok sizeY'
  have leading {z z' : List α} (same : z.take first = z'.take first) :
      z.take e.features.coefficientCount = z'.take e.features.coefficientCount := by
    rw [← min_eq_left few, ← List.take_take, same, List.take_take]
  have fits := e.fits
  have vector := e.vector_eq sentX sentY (by omega) (by omega)
  rw [leading (take_forward greatest sizeX sizeX' sameX sentX sentX'),
    leading (take_forward greatest sizeY sizeY' sameY sentY sentY')] at vector
  refine ⟨_, vector, ?_⟩
  rw [e.vector_congr features]
  exact e.vector_eq sentX' sentY' (by omega) (by omega)

theorem resampledPath_unit_steps {e : Extractor ℝ} {word : String} {a b c : Point ℝ}
    (count : e.resampling.sampleCount = 3) (placed : e.corners word = .ok [a, b, c])
    (first : (b.x - a.x) ^ 2 + (b.y - a.y) ^ 2 = 1)
    (second : (c.x - b.x) ^ 2 + (c.y - b.y) ^ 2 = 1) :
    e.resampledPath word = .ok ([a.x, b.x, c.x], [a.y, b.y, c.y]) := by
  have unit {u v : ℝ} (one : u ^ 2 + v ^ 2 = 1) : (Scalar.hypot u v : ℝ) = 1 := by
    change Real.sqrt (u ^ 2 + v ^ 2) = 1
    rw [one, Real.sqrt_one]
  have measured : Path.segmentLengths [a.x, b.x, c.x] [a.y, b.y, c.y] =
      .ok [Scalar.hypot (b.x - a.x) (b.y - a.y), Scalar.hypot (c.x - b.x) (c.y - b.y)] := rfl
  rw [unit first, unit second] at measured
  obtain ⟨gentleX, gentleY, lasting⟩ := Path.gentle_segmentLengths measured
  have targets : Resample.targets [(1 : ℝ), 1].sum 3 = [0, 1, 2] := by
    norm_num [Resample.targets, List.range_succ, Scalar.ofNat]
  have sampled {u v w : ℝ} (gentle : OnPath.Gentle 1 [u, v, w] [1, 1]) :
      resample [u, v, w] [1, 1] (3 : ℕ) = .ok [u, v, w] := by
    refine resample_of_onPath lasting zero_le_one gentle rfl (List.cons_ne_nil _ _) (by decide) ?_
    have start : OnPath [u, v, w] [1, 1] (0 * 1) (u + 0 * (v - u)) := .here le_rfl zero_le_one
    have middle : OnPath [u, v, w] [1, 1] (1 * 1) (u + 1 * (v - u)) := .here zero_le_one le_rfl
    have stop : OnPath [u, v, w] [1, 1] (1 + 1 * 1) (v + 1 * (w - v)) :=
      .later (.here zero_le_one le_rfl)
    rw [targets]
    norm_num at start middle stop
    exact .cons start (.cons middle (.cons stop .nil))
  refine resampledPath_eq (path_eq placed (Path.coordinates_self _) measured) ?_ ?_
  · rw [count]
    exact sampled gentleX
  · rw [count]
    exact sampled gentleY

end Extractor

/-- A line is cut into parts that hold every place once. What a decomposed transform makes of a line
is on every part what the transform makes of it; it is what stands in any buffer once each part is
written to it, and a coefficient depends on no part but its own. So a vector with no more
coefficients than the first part has samples depends on these samples only. -/
theorem decomposed_by_parts :
    (∀ length, 1 ≤ length → Multipliers.CutsByPowers length (Multipliers.parts length)) ∧
    (∀ {α : Type} (t : LineTransform α) (d : Direction) (level : Option ℤ) (xs : List α),
      let step := t.step d level
      let transformed := t.decomposed.step d level
      let parts := Multipliers.parts xs.length
      xs ≠ [] → KeepsLength step →
      (∀ ys, transformed xs = .ok ys ↔ ys.length = xs.length ∧
        ∀ part ∈ parts, onSlice step xs part = .ok (slice part ys)) ∧
      ((∀ part ∈ parts, ∃ piece, onSlice step xs part = .ok piece) →
        ∃ ys, transformed xs = .ok ys) ∧
      (∀ buffer, buffer.length = xs.length → writeParts step xs parts buffer = transformed xs) ∧
      ∀ (xs' ys ys' : List α) (k : ℕ), ∀ part ∈ parts, xs'.length = xs.length → Holds k part →
        (∀ i, Holds i part → xs[i]? = xs'[i]?) →
        transformed xs = .ok ys → transformed xs' = .ok ys' → ys[k]? = ys'[k]?) ∧
    ∀ {κ κ' α : Type} [Embeds κ α] [Embeds κ' α] [Zero α] [Add α] [Sub α] [Neg α] [Mul α] [Div α]
      [Scalar α] (e : Extractor κ) (e' : Extractor κ') (u w : String) (xs ys xs' ys' : List α)
      (first : ℕ), e'.features = e.features → e'.resampling = e.resampling →
      IsGreatest {size : ℕ | size.isPowerOfTwo ∧ size ≤ e.resampling.sampleCount} first →
      e.features.coefficientCount ≤ first →
      e.resampledPath u = .ok (xs, ys) → e'.resampledPath w = .ok (xs', ys') →
      xs.take first = xs'.take first → ys.take first = ys'.take first →
      ∃ v : FeatureVector α, e.extract u = .ok v ∧ e'.extract w = .ok v := by
  refine ⟨fun length nonzero => Multipliers.cutsByPowers_parts (by omega), ?_, ?_⟩
  · intro α t d level xs step transformed parts nonempty kept
    have contiguous : Contiguous 0 parts xs.length := Multipliers.contiguous_parts xs.length
    refine ⟨LineTransform.step_decomposed_eq_ok nonempty kept, ?_, ?_, ?_⟩
    · intro sent
      have each : ∀ part ∈ parts, ∃ piece, onSlice step xs part = .ok piece ∧ True := by
        simpa only [and_true] using sent
      obtain ⟨pieces, made, _⟩ := mapM_ok_of_forall each
      refine ⟨pieces.flatten, ?_⟩
      change t.decomposed.step d level xs = _
      rw [LineTransform.step_decomposed t d level nonempty]
      change parts.mapM (onSlice step xs) >>= _ = _
      rw [made]
      rfl
    · intro buffer size
      rw [writeParts_eq kept contiguous size, List.take_zero]
      exact (LineTransform.step_decomposed t d level nonempty).symm
    · intro xs' ys ys' k part member size holds agree sent sent'
      have same :=
        LineTransform.slice_decomposed nonempty kept size member (slice_congr agree) sent sent'
      rw [← getElem?_slice ys holds, same, getElem?_slice ys' holds]
  · intro κ κ' α _ _ _ _ _ _ _ _ _ e e' u w xs ys xs' ys' first features resampling greatest few
      sampled sampled' sameX sameY
    obtain ⟨sizeX, sizeY⟩ := Extractor.length_resampledPath sampled
    obtain ⟨sizeX', sizeY'⟩ := Extractor.length_resampledPath sampled'
    rw [resampling] at sizeX' sizeY'
    obtain ⟨v, vector, vector'⟩ :=
      Extractor.vector_of_take features greatest few sizeX sizeY sizeX' sizeY' sameX sameY
    refine ⟨v, ?_, ?_⟩
    · rw [Extractor.extract, sampled]
      exact vector
    · rw [Extractor.extract, sampled']
      exact vector'

/-- A line of seven entries whose parts are turned around, and two words that have the first two of
three samples in common. -/
theorem decomposed_by_parts_seven :
    let turned : LineTransform ℕ := ⟨fun xs _ => .ok xs.reverse, fun xs _ => .ok xs.reverse⟩
    let step := turned.step .forward none
    let e : Extractor ℝ :=
      ⟨⟨⟨[("a", ⟨0, 0⟩), ("b", ⟨1, 0⟩), ("c", ⟨2, 0⟩), ("d", ⟨1, 1⟩)], by simp⟩, 1, 1⟩,
        ⟨2, .haar, .pyramid, none, by decide⟩, ⟨3, by decide⟩, by decide⟩
    (Multipliers.parts 7).countP (Holds 4 ·) = 1 ∧
      turned.decomposed.step .forward none [1, 2, 3, 4, 5, 6, 7] = .ok [4, 3, 2, 1, 6, 5, 7] ∧
      writeParts step [1, 2, 3, 4, 5, 6, 7] (Multipliers.parts 7) [0, 0, 0, 0, 9, 9, 9] =
        .ok [4, 3, 2, 1, 6, 5, 7] ∧
      (∀ ys, turned.decomposed.step .forward none [8, 8, 8, 8, 5, 6, 8] = .ok ys →
        ys[4]? = some 6) ∧
      ∃ v : FeatureVector ℝ, e.extract "abc" = .ok v ∧ e.extract "abd" = .ok v := by
  intro turned step e
  obtain ⟨cuts, decomposed, extracted⟩ := decomposed_by_parts
  have kept : KeepsLength step := by
    intro xs ys sent
    obtain rfl := Except.ok.inj sent
    exact List.length_reverse
  have parts : Multipliers.parts 7 = [(0, 4), (4, 2), (6, 1)] := rfl
  obtain ⟨sends, _, written, alone⟩ :=
    decomposed turned .forward none [1, 2, 3, 4, 5, 6, 7] (List.cons_ne_nil _ _) kept
  have sent := (sends [4, 3, 2, 1, 6, 5, 7]).mpr ⟨rfl, by
    simp only [List.length_cons, List.length_nil, parts, List.forall_mem_cons]
    exact ⟨rfl, rfl, rfl, List.forall_mem_nil _⟩⟩
  have placed : e.corners "abc" = .ok [⟨0, 0⟩, ⟨1, 0⟩, ⟨2, 0⟩] := rfl
  have placedAlso : e.corners "abd" = .ok [⟨0, 0⟩, ⟨1, 0⟩, ⟨1, 1⟩] := rfl
  have sampled := Extractor.resampledPath_unit_steps rfl placed (by norm_num) (by norm_num)
  have sampledAlso := Extractor.resampledPath_unit_steps rfl placedAlso (by norm_num) (by norm_num)
  have greatest : IsGreatest {size : ℕ | size.isPowerOfTwo ∧ size ≤ 3} 2 :=
    Multipliers.isGreatest_two_pow_log2 three_ne_zero
  refine ⟨(cuts 7 (by decide)).once 4, sent, ?_, ?_, ?_⟩
  · exact (written [0, 0, 0, 0, 9, 9, 9] rfl).trans sent
  · intro ys sentAlso
    have member : (4, 2) ∈ Multipliers.parts 7 := by simp [parts]
    refine (alone [8, 8, 8, 8, 5, 6, 8] _ ys 4 (4, 2) member rfl (by decide) ?_ sent sentAlso).symm
    intro i holds
    obtain rfl | rfl : i = 4 ∨ i = 5 := by
      obtain ⟨least, most⟩ := holds
      omega
    · rfl
    · rfl
  · exact extracted e e "abc" "abd" _ _ _ _ 2 rfl rfl greatest (by decide) sampled sampledAlso rfl
      rfl

end GestureLexicon
