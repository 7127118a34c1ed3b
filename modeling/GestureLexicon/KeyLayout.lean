import GestureLexicon.Point

/-!
Keyboard layouts: the centre of every key, by the key's text. Keys keep the order in which they
first occur, and a key that occurs again keeps its place and takes its last centre.
-/

namespace GestureLexicon

/-- Centres by key, each key once, in the order in which the keys first occurred. -/
structure Positions (κ : Type) where
  entries : List (String × Point κ)
  distinct : (entries.map Prod.fst).Nodup

namespace Positions
variable {κ κ' : Type}

instance [DecidableEq κ] : DecidableEq (Positions κ) := fun a b =>
  decidable_of_iff (a.entries = b.entries) (by cases a; cases b; simp)

def empty : Positions κ := ⟨[], by simp⟩

def keys (p : Positions κ) : List String := p.entries.map Prod.fst

def size (p : Positions κ) : Nat := p.entries.length

def get? (p : Positions κ) (key : String) : Option (Point κ) :=
  p.entries.lookup key

def contains (p : Positions κ) (key : String) : Bool :=
  p.keys.contains key

def replaced (entries : List (String × Point κ)) (key : String) (centre : Point κ) :
    List (String × Point κ) :=
  entries.map fun entry => (entry.1, if entry.1 = key then centre else entry.2)

theorem keys_replaced (entries : List (String × Point κ)) (key : String) (centre : Point κ) :
    (replaced entries key centre).map Prod.fst = entries.map Prod.fst := by
  simp [replaced]

/-- Gives a key a centre: in the key's place if it has one, else after all others. -/
def insert (p : Positions κ) (key : String) (centre : Point κ) : Positions κ :=
  if h : key ∈ p.keys then ⟨replaced p.entries key centre, by rw [keys_replaced]; exact p.distinct⟩
  else ⟨p.entries ++ [(key, centre)], by
    simp only [List.map_append, List.map_cons, List.map_nil]
    exact List.nodup_append.2 ⟨p.distinct, by simp, by
      intro a ha b hb
      simp only [List.mem_singleton] at hb
      subst hb
      exact fun same => h (same ▸ ha)⟩⟩

def ofList (entries : List (String × Point κ)) : Positions κ :=
  entries.foldl (fun p entry => p.insert entry.1 entry.2) empty

def map (f : κ → κ') (p : Positions κ) : Positions κ' :=
  ⟨p.entries.map fun entry => (entry.1, entry.2.map f), by
    simpa [Function.comp_def] using p.distinct⟩

end Positions

structure KeyLayout (κ : Type) where
  positions : Positions κ
  keyWidth : κ
  keyHeight : κ
  deriving DecidableEq

structure LayoutRow where
  keys : List String
  offset : Int := 0
  deriving DecidableEq, Repr

structure PointRecord (κ : Type) where
  x : Option κ
  y : Option κ

structure LayoutRecord (κ : Type) where
  positions : Option (List (String × PointRecord κ))
  keyWidth : Option κ
  keyHeight : Option κ

inductive MissingField where
  | positions
  | x
  | y
  | keyWidth
  | keyHeight
  deriving DecidableEq, Repr

def MissingField.name : MissingField → String
  | positions => "positions"
  | x => "x"
  | y => "y"
  | keyWidth => "key_width"
  | keyHeight => "key_height"

def MissingField.message (field : MissingField) : String :=
  s!"'{field.name}'"

namespace KeyLayout
variable {κ κ' : Type}

def map (f : κ → κ') (l : KeyLayout κ) : KeyLayout κ' :=
  ⟨l.positions.map f, f l.keyWidth, f l.keyHeight⟩

/-- The keys of rows with their centres. Halves round down, and the distance between rows is the
width of a key, not its height. -/
def centres (rows : List LayoutRow) (keyWidth keyHeight : Int) : List (String × Point Int) :=
  rows.zipIdx.flatMap fun (row, i) => row.keys.zipIdx.map fun (key, j) =>
    (key, ⟨row.offset + keyWidth / 2 + j * keyWidth, keyHeight / 2 + i * keyWidth⟩)

def ofRows (rows : List LayoutRow) (keyWidth keyHeight : Int) : KeyLayout Int :=
  ⟨.ofList (centres rows keyWidth keyHeight), keyWidth, keyHeight⟩

def position? (l : KeyLayout κ) (key : String) : Option (Point κ) :=
  l.positions.get? key

def contains (l : KeyLayout κ) (key : String) : Bool :=
  l.positions.contains key

def size (l : KeyLayout κ) : Nat := l.positions.size

def toRecord (l : KeyLayout κ) : LayoutRecord κ :=
  ⟨some (l.positions.entries.map fun (key, p) => (key, ⟨some p.x, some p.y⟩)),
    some l.keyWidth, some l.keyHeight⟩

def required {β : Type} (field : MissingField) : Option β → Except MissingField β
  | some value => .ok value
  | none => .error field

/-- The layout of a record. The keys are read first and in order, then the width and the height. -/
def ofRecord (r : LayoutRecord κ) : Except MissingField (KeyLayout κ) := do
  let entries ← (← required .positions r.positions).mapM fun (key, p) => do
    return (key, ⟨← required .x p.x, ← required .y p.y⟩)
  return ⟨.ofList entries, ← required .keyWidth r.keyWidth, ← required .keyHeight r.keyHeight⟩

end KeyLayout

end GestureLexicon
