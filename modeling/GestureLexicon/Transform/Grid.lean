import GestureLexicon.Transform

/-!
Transforms of tables and volumes. A line transform is applied along each axis in turn, forward along
the rows, then the columns, then across the slices of a volume, and backward in the opposite order.
Data of any shape is checked here before it is cut into lines.
-/

namespace GestureLexicon

/-- Data with a size along each axis and its entries in row-major order. -/
structure Tensor (α : Type) where
  shape : List Nat
  entries : List α

def columns {β : Type} (rows : List (List β)) : List (List β) :=
  (List.range (rows.headD []).length).map fun j => rows.filterMap (·[j]?)

namespace Grid
variable {α : Type}

abbrev Step (α : Type) := List α → Except TransformError (List α)

def alongRows (step : Step α) (table : List (List α)) : Except TransformError (List (List α)) :=
  table.mapM step

def alongColumns (step : Step α) (table : List (List α)) :
    Except TransformError (List (List α)) := do
  return columns (← (columns table).mapM step)

def acrossSlices (step : Step α) (slices : List (List (List α))) :
    Except TransformError (List (List (List α))) := do
  return columns (← (columns slices).mapM (alongColumns step))

def forwardTable (t : LineTransform α) (table : List (List α)) (level : Option Int) :
    Except TransformError (List (List α)) := do
  alongColumns (t.forward · level) (← alongRows (t.forward · level) table)

def reverseTable (t : LineTransform α) (table : List (List α)) (level : Option Int) :
    Except TransformError (List (List α)) := do
  alongRows (t.reverse · level) (← alongColumns (t.reverse · level) table)

def forwardVolume (t : LineTransform α) (slices : List (List (List α))) (level : Option Int) :
    Except TransformError (List (List (List α))) := do
  acrossSlices (t.forward · level) (← slices.mapM (forwardTable t · level))

def reverseVolume (t : LineTransform α) (slices : List (List (List α))) (level : Option Int) :
    Except TransformError (List (List (List α))) := do
  (← acrossSlices (t.reverse · level) slices).mapM (reverseTable t · level)

end Grid

inductive Direction where
  | forward
  | reverse
  deriving DecidableEq, Repr

namespace Tensor
variable {α : Type}

def transformLine (t : LineTransform α) (d : Direction) (data : Tensor α) (level : Option Int) :
    Except TransformError (Tensor α) := do
  let [_] := data.shape | throw (.notALine data.shape)
  let entries ← match d with
    | .forward => t.forward data.entries level
    | .reverse => t.reverse data.entries level
  return ⟨[entries.length], entries⟩

def transformTable (t : LineTransform α) (d : Direction) (data : Tensor α) (level : Option Int) :
    Except TransformError (Tensor α) := do
  let [_, width] := data.shape | throw (.wrongDimension 2 data.shape)
  if data.entries.isEmpty then throw .emptyData
  let table := blocks width data.entries
  let result ← match d with
    | .forward => Grid.forwardTable t table level
    | .reverse => Grid.reverseTable t table level
  return ⟨data.shape, result.flatten⟩

def transformVolume (t : LineTransform α) (d : Direction) (data : Tensor α) (level : Option Int) :
    Except TransformError (Tensor α) := do
  let [_, height, width] := data.shape | throw (.wrongDimension 3 data.shape)
  if data.entries.isEmpty then throw .emptyData
  let slices := blocks height (blocks width data.entries)
  let result ← match d with
    | .forward => Grid.forwardVolume t slices level
    | .reverse => Grid.reverseVolume t slices level
  return ⟨data.shape, result.flatten.flatten⟩

variable [Zero α] [Add α] [Mul α] [Neg α]

/-- Applies a filter step to data of any shape. Where the wavelet passes, the first size alone
decides; anywhere else the data has to be a line. -/
def transformFilter (w : Wavelet α) (d : Direction) (data : Tensor α) (level : Option Int) :
    Except TransformError (Tensor α) :=
  match data.shape with
  | [] => .error .noLength
  | [_] => transformLine ⟨w.forward, w.reverse⟩ d data level
  | length :: _ =>
    if !isPowerOfTwo length then .error (.notPowerOfTwo (.filter w.known) length)
    else if w.Passes length level then .ok data
    else .error .nestedEntries

/-- Applies a transform to data as it is. Only a bare filter takes data that is no line. -/
def transform (t : Transform α) (d : Direction) (data : Tensor α) (level : Option Int) :
    Except TransformError (Tensor α) :=
  match t with
  | .filter w => transformFilter w d data level
  | t => transformLine t.line d data level

end Tensor

end GestureLexicon
