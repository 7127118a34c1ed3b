import GestureLexicon.Proofs.Isometry

/-!
Products of data of one shape. A transform on an orthonormal wavelet keeps the product of any two
data along one, two or three axes, so its way back keeps it too and the two are adjoint to each
other. Main statement: `Tensor.keeps_products`.
-/

namespace GestureLexicon
variable {R β : Type} [CommRing R]

theorem Isometric.eq {γ : Type} {fits : β → Prop} {product : β → β → γ}
    {step : β → Except TransformError β} (isometric : Isometric fits product step) {x y u v : β}
    (fine : fits x) (fineOther : fits y) (sent : step x = .ok u) (sentOther : step y = .ok v) :
    product u v = product x y := by
  obtain ⟨p, q, passed, passedOther, _, _, equal⟩ := isometric x y fine fineOther
  obtain rfl : u = p := Except.ok.inj (sent.symm.trans passed)
  obtain rfl : v = q := Except.ok.inj (sentOther.symm.trans passedOther)
  exact equal

namespace LineTransform
variable (t : LineTransform R) (d : Direction) (level : Option Int)

/-- The step of a transform keeps the product of any two lines of a length. -/
def KeepsDot (length : ℕ) : Prop :=
  Isometric (·.length = length) dot (t.step d level)

variable {t d level} {depth height width : ℕ}

theorem KeepsDot.isometric {length : ℕ} (keeps : t.KeepsDot d level length) :
    Isometric (Each length fun _ => True) dot (t.step d level) := by
  rw [each_true]
  exact keeps

theorem KeepsDot.onTable (columns : t.KeepsDot d level height) (rows : t.KeepsDot d level width)
    (high : 0 < height) (wide : 0 < width) :
    Isometric (Each height (Each width fun _ => True)) (pairing dot) (t.onTable d level) := by
  have alongRows := rows.isometric.mapM height
  have alongColumns := columns.isometric.onColumns high wide
  cases d with
  | forward => exact alongRows.bind alongColumns
  | reverse => exact alongColumns.bind alongRows

theorem KeepsDot.onVolume (across : t.KeepsDot d level depth) (columns : t.KeepsDot d level height)
    (rows : t.KeepsDot d level width) (deep : 0 < depth) (high : 0 < height) (wide : 0 < width) :
    Isometric (Each depth (Each height (Each width fun _ => True))) (pairing (pairing dot))
      (t.onVolume d level) := by
  have tables := (columns.onTable rows high wide).mapM depth
  have acrossSlices := (across.isometric.onColumns deep wide).onColumns deep high
  cases d with
  | forward => exact tables.bind acrossSlices
  | reverse => exact acrossSlices.bind tables

end LineTransform

namespace Tensor

def product (x y : Tensor R) : R :=
  dot x.entries y.entries

def energy (x : Tensor R) : R :=
  (x.entries.map (· ^ 2)).sum

theorem product_self (x : Tensor R) : x.product x = x.energy := by
  unfold product energy dot
  induction x.entries with
  | nil => rfl
  | cons value rest ih => rw [pairing_cons, ih, List.map_cons, List.sum_cons, sq]

end Tensor

theorem Nesting.isometric {shape : List ℕ} {nesting : Nesting R β shape} {product : β → β → R}
    {step : β → Except TransformError β} {operation : Tensor R → Except TransformError (Tensor R)}
    (lifts : nesting.Lifts step operation)
    (joined : ∀ x y, nesting.fits x → nesting.fits y →
      dot (nesting.join x) (nesting.join y) = product x y)
    (isometric : Isometric nesting.fits product step) :
    Isometric (Tensor.HasShape shape) Tensor.product operation := by
  rintro ⟨_, xs⟩ ⟨_, ys⟩ ⟨rfl, filled⟩ ⟨rfl, filledOther⟩
  have length : xs.length = _ := filled
  have lengthOther : ys.length = _ := filledOther
  have cut := nesting.fits_cut xs length
  have cutOther := nesting.fits_cut ys lengthOther
  obtain ⟨u, v, sent, sentOther, kept, keptOther, equal⟩ := isometric _ _ cut cutOther
  refine ⟨_, _, lifts xs u length sent kept, lifts ys v lengthOther sentOther keptOther,
    ⟨rfl, nesting.length_join u kept⟩, ⟨rfl, nesting.length_join v keptOther⟩, ?_⟩
  calc dot (nesting.join u) (nesting.join v)
    _ = product u v := joined u v kept keptOther
    _ = product (nesting.cut xs) (nesting.cut ys) := equal
    _ = dot (nesting.join (nesting.cut xs)) (nesting.join (nesting.cut ys)) :=
      (joined _ _ cut cutOther).symm
    _ = dot xs ys := by rw [nesting.join_cut xs length, nesting.join_cut ys lengthOther]

namespace Tensor
variable {level : Option Int}

theorem lifts_line (t : Transform R) (d : Direction) (length : ℕ) :
    (Nesting.line length).Lifts (t.line.step d level) (transform t d · level) := by
  intro xs out _ sent size
  have kept : out.length = length := size
  have passed : t.line.step d level xs = .ok out := sent
  calc transform t d ⟨[length], xs⟩ level
    _ = (fun ys => ⟨[ys.length], ys⟩) <$> t.line.step d level xs := by
      cases t <;> cases d <;> rfl
    _ = .ok ⟨[length], out⟩ := by
      rw [passed, ← kept]
      rfl

/-- Two operations on data of a shape that keep the product of any two data, and so the energy, and
that are adjoint to each other. -/
def KeepProducts (shape : List ℕ) (there back : Tensor R → Except TransformError (Tensor R)) :
    Prop :=
  ∀ x y, HasShape shape x → HasShape shape y → ∃ fx fy rx ry,
    there x = .ok fx ∧ there y = .ok fy ∧ back x = .ok rx ∧ back y = .ok ry ∧
      fx.product fy = x.product y ∧ rx.product ry = x.product y ∧
      fx.product y = x.product ry ∧ fx.energy = x.energy ∧ rx.energy = x.energy

/-- An isometry that takes another operation back keeps products with it. -/
theorem keepProducts {shape : List ℕ} {there back : Tensor R → Except TransformError (Tensor R)}
    (isometric : Isometric (HasShape shape) product there)
    (restores : Restores (HasShape shape) back there) : KeepProducts shape there back := by
  intro x y fine fineOther
  obtain ⟨fx, fy, sent, sentOther, _, _, equal⟩ := isometric x y fine fineOther
  obtain ⟨rx, returned, kept, undone⟩ := restores x fine
  obtain ⟨ry, returnedOther, keptOther, undoneOther⟩ := restores y fineOther
  have adjoint : fx.product y = x.product ry := isometric.eq fine keptOther sent undoneOther
  refine ⟨fx, fy, rx, ry, sent, sentOther, returned, returnedOther, equal,
    (isometric.eq kept keptOther undone undoneOther).symm, adjoint, ?_, ?_⟩
  · rw [← product_self, ← product_self]
    exact isometric.eq fine fine sent sent
  · rw [← product_self, ← product_self]
    exact (isometric.eq kept kept undone undone).symm

/-- On an orthonormal wavelet every transform keeps the products of data, forward and back, along
one, two and three axes of lengths that it takes, and its way back is its adjoint. -/
theorem keeps_products (t : Transform R) (level : Option Int) (shape : List ℕ)
    (orthonormal : t.wavelet.Orthonormal) (allowed : LevelAllowed level)
    (accepted : ∀ size ∈ shape, t.Accepts size) :
    (shape.length = 1 →
      KeepProducts shape (transform t .forward · level) (transform t .reverse · level)) ∧
    (shape.length = 2 → KeepProducts shape (transformTable t.line .forward · level)
      (transformTable t.line .reverse · level)) ∧
    (shape.length = 3 → KeepProducts shape (transformVolume t.line .forward · level)
      (transformVolume t.line .reverse · level)) := by
  have positive : ∀ size ∈ shape, 0 < size := fun size axis => t.pos_of_accepts (accepted size axis)
  have keepsDot : ∀ size ∈ shape, t.line.KeepsDot .forward level size := fun size axis =>
    t.isometric orthonormal (accepted size axis)
  have takesBack : ∀ size ∈ shape, t.line.TakesBack .reverse level size := fun size axis =>
    t.takesBack .reverse orthonormal allowed (accepted size axis)
  refine ⟨?_, ?_, ?_⟩
  · intro one
    obtain ⟨length, rfl⟩ := List.length_eq_one_iff.mp one
    simp only [List.forall_mem_cons] at keepsDot takesBack
    apply keepProducts
    · exact Nesting.isometric (lifts_line t .forward length) (fun _ _ _ _ => rfl) keepsDot.1
    · exact Nesting.restores (lifts_line t .reverse length) (lifts_line t .forward length)
        takesBack.1
  · intro two
    obtain ⟨height, width, rfl⟩ := List.length_eq_two.mp two
    simp only [List.forall_mem_cons] at positive keepsDot takesBack
    obtain ⟨high, wide, _⟩ := positive
    apply keepProducts
    · apply Nesting.isometric (lifts_table high wide) fun _ _ => pairing_flatten
      exact keepsDot.1.onTable keepsDot.2.1 high wide
    · exact restores_table high wide takesBack.1 takesBack.2.1
  · intro three
    obtain ⟨depth, height, width, rfl⟩ := List.length_eq_three.mp three
    simp only [List.forall_mem_cons] at positive keepsDot takesBack
    obtain ⟨deep, high, wide, _⟩ := positive
    apply keepProducts
    · apply Nesting.isometric (lifts_volume deep high wide)
      · intro xs ys sized sizedOther
        exact (pairing_flatten (each_flatten sized) (each_flatten sizedOther)).trans
          (pairing_flatten sized sizedOther)
      · exact keepsDot.1.onVolume keepsDot.2.1 keepsDot.2.2.1 deep high wide
    · exact restores_volume deep high wide takesBack.1 takesBack.2.1 takesBack.2.2.1

/-- A table of three columns under the decomposed packet transform, and a volume and a line with
one filter pass. -/
theorem keeps_products_three_columns :
    let packet : Transform ℝ := .decomposed (.packet Wavelet.haar)
    let filter : Transform ℝ := .filter Wavelet.haar
    (packet.wavelet.Orthonormal ∧ filter.wavelet.Orthonormal) ∧
      (LevelAllowed none ∧ LevelAllowed (some 1)) ∧
      (∀ size ∈ [2, 3], packet.Accepts size) ∧ (∀ size ∈ [8], filter.Accepts size) ∧
      (∀ size ∈ [2, 1, 4], filter.Accepts size) ∧
      KeepProducts [2, 3] (transformTable packet.line .forward · none)
        (transformTable packet.line .reverse · none) ∧
      KeepProducts [8] (transform filter .forward · (some 1))
        (transform filter .reverse · (some 1)) ∧
      KeepProducts [2, 1, 4] (transformVolume filter.line .forward · (some 1))
        (transformVolume filter.line .reverse · (some 1)) := by
  intro packet filter
  have orthonormal : Wavelet.haar.Orthonormal := Wavelet.haar_orthonormal
  have unbounded : LevelAllowed none := by
    rintro bound ⟨⟩
  have once : LevelAllowed (some 1) := by
    rintro bound ⟨rfl⟩
    decide
  have table : ∀ size ∈ [2, 3], packet.Accepts size := by
    have positive : ∀ size ∈ [2, 3], 0 < size := by decide
    exact positive
  have powers (k : ℕ) : filter.Accepts (2 ^ k) := ⟨k, rfl⟩
  have line : ∀ size ∈ [8], filter.Accepts size := by
    simpa using powers 3
  have volume : ∀ size ∈ [2, 1, 4], filter.Accepts size := by
    simpa using And.intro (powers 1) (And.intro (powers 0) (powers 2))
  exact ⟨⟨orthonormal, orthonormal⟩, ⟨unbounded, once⟩, table, line, volume,
    (keeps_products packet none [2, 3] orthonormal unbounded table).2.1 rfl,
    (keeps_products filter (some 1) [8] orthonormal once line).1 rfl,
    (keeps_products filter (some 1) [2, 1, 4] orthonormal once volume).2.2 rfl⟩

end Tensor

end GestureLexicon
