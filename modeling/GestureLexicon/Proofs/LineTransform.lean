import GestureLexicon.Proofs.Steps

/-!
What holds of a filter step carries over to every transform built on it. On the lengths that a
transform accepts it refuses nothing and keeps the length, whatever the numbers and the wavelet are,
and where the filter steps undo each other the transform and its way back do so too.
-/

namespace GestureLexicon
variable {α : Type}

namespace Wavelet

section
variable [Add α] [Mul α]

theorem size_spread (taps : List (α × α)) (low high : α) (start : Nat) (out : Array α) :
    (spread taps low high start out).size = out.size := by
  have kept (places : List ((α × α) × Nat)) (acc : Array α) :
      (places.foldl (fun acc place => acc.modify ((start + place.2) % out.size)
        (· + (low * place.1.1 + high * place.1.2))) acc).size = acc.size := by
    induction places generalizing acc with
    | nil => rfl
    | cons place places ih => rw [List.foldl_cons, ih, Array.size_modify]
  exact kept taps.zipIdx out

theorem size_foldl_spread (taps : List (α × α)) (low high : Nat → α) (starts : List Nat)
    (out : Array α) :
    (starts.foldl (fun out i => spread taps (low i) (high i) (2 * i) out) out).size =
      out.size := by
  induction starts generalizing out with
  | nil => rfl
  | cons start starts ih => rw [List.foldl_cons, ih, size_spread]

end

variable (w : Wavelet α) {length : Nat} {level : Option Int}

section
variable [Zero α] [Add α] [Mul α] [Neg α]

theorem length_analyse {xs : List α} (even : xs.length % 2 = 0) :
    (w.analyse xs).length = xs.length := by
  simp only [analyse, List.length_append, List.length_map, List.length_range]
  omega

theorem length_synthesise (xs : List α) : (w.synthesise xs).length = xs.length := by
  have size := size_foldl_spread (w.scales.zip w.coeffs) (xs.toArray.getD · 0)
    (fun i => xs.toArray.getD (i + xs.length / 2) 0) (List.range (xs.length / 2))
    (Array.replicate xs.length 0)
  rw [synthesise, Array.length_toList, size, Array.size_replicate]

end

theorem guarded_of_isPowerOfTwo (step : List α → List α) {xs : List α}
    (power : xs.length.isPowerOfTwo) (level : Option Int) :
    guarded step w xs level = if w.Passes xs.length level then .ok xs else .ok (step xs) := by
  have accepted := (isPowerOfTwo_iff _).mpr power
  simp only [guarded, accepted, Bool.not_true, Bool.false_eq_true, ↓reduceIte]

theorem even_of_holds {length : Nat} (power : length.isPowerOfTwo)
    (holds : w.waveLength ≤ length) : length % 2 = 0 := by
  have := w.two_le_waveLength
  obtain ⟨size, rfl⟩ := power
  cases size with
  | zero => omega
  | succ size => omega

theorem sends_guarded {step : List α → List α} (power : length.isPowerOfTwo)
    {related : List α → List α → Prop}
    (passed : w.Passes length level → ∀ xs, xs.length = length → related xs xs)
    (stepped : w.waveLength ≤ length → ¬w.Passes length level → ∀ xs, xs.length = length →
      (step xs).length = length ∧ related xs (step xs)) :
    Sends length (guarded step w · level) related := by
  rintro xs rfl
  simp only [w.guarded_of_isPowerOfTwo _ power]
  by_cases passes : w.Passes xs.length level
  · exact ⟨xs, if_pos passes, rfl, passed passes xs rfl⟩
  · have holds : w.waveLength ≤ xs.length := not_lt.mp fun short => passes (.inr short)
    exact ⟨step xs, if_neg passes, stepped holds passes xs rfl⟩

theorem undoes_guarded {there back : List α → List α} (power : length.isPowerOfTwo)
    (undone : w.waveLength ≤ length → ∀ xs, xs.length = length →
      (there xs).length = length ∧ back (there xs) = xs) :
    Undoes length (guarded there w · level) (guarded back w · level) := by
  refine w.sends_guarded power ?_ ?_
  · rintro passes xs rfl
    change guarded back w xs level = .ok xs
    rw [w.guarded_of_isPowerOfTwo _ power, if_pos passes]
  · rintro holds steps xs rfl
    obtain ⟨kept, same⟩ := undone holds xs rfl
    refine ⟨kept, ?_⟩
    change guarded back w (there xs) level = .ok xs
    rw [w.guarded_of_isPowerOfTwo _ (kept.symm ▸ power), kept, if_neg steps, same]

variable {forth fro : List α → Nat → Except TransformError (List α)} {stage : Stage}

theorem keeps_descend (power : length.isPowerOfTwo)
    (keeps : ∀ width ∈ w.widths length level, Keeps length (forth · width)) :
    Keeps length (descend forth stage w · level) :=
  (Sends.foldlM keeps).keeps.congr fun xs size => by
    rw [w.descend_eq _ _ (size ▸ power), size]

theorem keeps_ascend (power : length.isPowerOfTwo) (allowed : LevelAllowed level)
    (keeps : ∀ width ∈ w.widths length level, Keeps length (fro · width)) :
    Keeps length (ascend fro stage w · level) :=
  (Sends.foldlM fun width member => keeps width (List.mem_reverse.mp member)).keeps.congr
    fun xs size => by rw [w.ascend_eq _ _ (size ▸ power) allowed, size]

theorem undoes_descend (power : length.isPowerOfTwo) (allowed : LevelAllowed level)
    (undoes : ∀ width ∈ w.widths length level, Undoes length (forth · width) (fro · width)) :
    Undoes length (descend forth stage w · level) (ascend fro stage w · level) := by
  refine (Undoes.foldlM undoes).congr ?_ ?_
  · intro xs size
    rw [w.descend_eq _ _ (size ▸ power), size]
  · intro xs size
    rw [w.ascend_eq _ _ (size ▸ power) allowed, size]

theorem undoes_ascend (power : length.isPowerOfTwo) (allowed : LevelAllowed level)
    (undoes : ∀ width ∈ w.widths length level, Undoes length (fro · width) (forth · width)) :
    Undoes length (ascend fro stage w · level) (descend forth stage w · level) := by
  refine (Undoes.foldlM fun width member => undoes width (List.mem_reverse.mp member)).congr ?_ ?_
  · intro xs size
    rw [w.ascend_eq _ _ (size ▸ power) allowed, size]
  · intro xs size
    rw [w.descend_eq _ _ (size ▸ power), List.reverse_reverse, size]

theorem keeps_onLeading {step : List α → Except TransformError (List α)} {width : Nat}
    (power : length.isPowerOfTwo) (member : width ∈ w.widths length level)
    (keeps : width.isPowerOfTwo → Keeps width step) : Keeps length (onLeading step · width) := by
  obtain ⟨narrow, divides, _⟩ := w.mem_widths power member
  have fits : width ≤ length := Nat.le_of_dvd (Nat.pos_of_isPowerOfTwo power) divides
  exact ((keeps narrow).onLeading fits).keeps

theorem keeps_onBlocks {step : List α → Except TransformError (List α)} {width : Nat}
    (power : length.isPowerOfTwo) (member : width ∈ w.widths length level)
    (keeps : width.isPowerOfTwo → Keeps width step) : Keeps length (onBlocks step · width) := by
  obtain ⟨narrow, divides, _⟩ := w.mem_widths power member
  exact ((keeps narrow).onBlocks (Nat.pos_of_isPowerOfTwo narrow) divides).keeps

variable [Zero α] [Add α] [Mul α] [Neg α]

theorem keeps_forward (power : length.isPowerOfTwo) : Keeps length (w.forward · level) :=
  w.sends_guarded power (fun _ _ _ => trivial) fun holds _ _ size =>
    ⟨(w.length_analyse (size ▸ w.even_of_holds power holds)).trans size, trivial⟩

theorem keeps_reverse (power : length.isPowerOfTwo) : Keeps length (w.reverse · level) :=
  w.sends_guarded power (fun _ _ _ => trivial) fun _ _ xs size =>
    ⟨(w.length_synthesise xs).trans size, trivial⟩

end Wavelet

namespace Transform

def wavelet : Transform α → Wavelet α
  | filter w | pyramid w | packet w => w
  | decomposed inner => inner.wavelet

/-- The lengths of the lines that a transform takes: powers of two, and all but zero once it is
decomposed. -/
def Accepts (length : Nat) : Transform α → Prop
  | filter _ | pyramid _ | packet _ => length.isPowerOfTwo
  | decomposed _ => 0 < length

theorem accepts_of_isPowerOfTwo {length : Nat} (power : length.isPowerOfTwo) (t : Transform α) :
    t.Accepts length := by
  cases t with
  | decomposed inner => exact Nat.pos_of_isPowerOfTwo power
  | _ => exact power

theorem pos_of_accepts (t : Transform α) {length : Nat} (accepted : t.Accepts length) :
    0 < length := by
  cases t with
  | decomposed inner => exact accepted
  | _ => exact Nat.pos_of_isPowerOfTwo accepted

theorem accepts_of_mem_sizes {length size : Nat} (inner : Transform α)
    (member : size ∈ Multipliers.sizes length) : inner.Accepts size :=
  inner.accepts_of_isPowerOfTwo (Multipliers.isPowerOfTwo_of_mem_sizes member)

variable [Zero α] [Add α] [Mul α] [Neg α] {length : Nat} {level : Option Int}

/-- A transform refuses no line that it takes, and keeps the length. -/
theorem keeps_forward (t : Transform α) (accepted : t.Accepts length) :
    Keeps length (t.forward · level) := by
  induction t generalizing length with
  | filter w => exact w.keeps_forward accepted
  | pyramid w =>
    exact w.keeps_descend accepted fun width member =>
      w.keeps_onLeading accepted member fun power => w.keeps_forward power
  | packet w =>
    exact w.keeps_descend accepted fun width member =>
      w.keeps_onBlocks accepted member fun power => w.keeps_forward power
  | decomposed inner ih =>
    exact (Sends.onParts accepted (fun size member _ => ih (inner.accepts_of_mem_sizes member))
      fun _ => trivial).keeps

theorem keeps_reverse (t : Transform α) (allowed : LevelAllowed level)
    (accepted : t.Accepts length) : Keeps length (t.reverse · level) := by
  induction t generalizing length with
  | filter w => exact w.keeps_reverse accepted
  | pyramid w =>
    exact w.keeps_ascend accepted allowed fun width member =>
      w.keeps_onLeading accepted member fun power => w.keeps_reverse power
  | packet w =>
    exact w.keeps_ascend accepted allowed fun width member =>
      w.keeps_onBlocks accepted member fun power => w.keeps_reverse power
  | decomposed inner ih =>
    exact (Sends.onParts accepted (fun size member _ => ih (inner.accepts_of_mem_sizes member))
      fun _ => trivial).keeps

end Transform

end GestureLexicon
