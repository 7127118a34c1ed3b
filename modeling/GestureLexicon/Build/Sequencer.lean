import GestureLexicon.Build.Run

/-!
Chunks that are processed side by side and arrive in any order. Results wait until those of every
chunk before them have been made known, so that the trace follows the order of the words.
-/

namespace GestureLexicon

structure Arrival where
  index : Nat
  failure : Option String
  deriving DecidableEq, Repr

abbrev Schedule := Nat → List Arrival

def Schedule.inOrder : Schedule := fun count => (List.range count).map (⟨·, none⟩)

structure Sequencer where
  run : Run
  /-- The index of the chunk whose results are made known next. -/
  next : Nat
  /-- Results that wait, by the index of their chunk, the least first. -/
  ready : List (Nat × List WordResult)
  pending : List Nat

namespace Sequencer

def enqueue (index : Nat) (results : List WordResult) :
    List (Nat × List WordResult) → List (Nat × List WordResult)
  | [] => [(index, results)]
  | (known, waiting) :: rest =>
    if index ≤ known then (index, results) :: (known, waiting) :: rest
    else (known, waiting) :: enqueue index results rest

/-- Makes results known for as long as the next chunk's are there. -/
def release (o : Observer) (total : Nat) (run : Run) (next : Nat) :
    List (Nat × List WordResult) → Run × Nat × List (Nat × List WordResult)
  | [] => (run, next, [])
  | (index, results) :: rest =>
    if run.interrupted || index ≠ next then (run, next, (index, results) :: rest)
    else release o total (run.emit o total results) (next + 1) rest

/-- The report on a chunk that arrived; every word of a failed chunk failed with its message. -/
def reportOf (process : List String → Except ChunkFault ChunkReport) (words : List String)
    (failure : Option String) : ChunkReport :=
  let failed (message : String) : ChunkReport :=
    ⟨words.map fun word => ⟨word, .failed message⟩, []⟩
  match failure with
  | some message => failed message
  | none =>
    match process words with
    | .ok report => report
    | .error fault => failed fault.message

def receive (o : Observer) (total : Nat) (process : List String → Except ChunkFault ChunkReport)
    (chunks : Array (List String)) (s : Sequencer) (a : Arrival) : Sequencer :=
  if s.run.interrupted then s
  else
    let report := reportOf process (chunks.getD a.index []) a.failure
    let waiting := enqueue a.index report.results s.ready
    let (run, next, ready) := release o total (s.run.overhear report.log) s.next waiting
    ⟨run, next, ready, s.pending.erase a.index⟩

/-- The end of a build that was interrupted: the words of chunks still to arrive are cancelled. -/
def cancel (o : Observer) (chunks : Array (List String)) (s : Sequencer) : Run :=
  let left := s.pending.foldl (fun count index => count + (chunks.getD index []).length) 0
  let noted := { s.run with interrupted := false }.tell o (.logged .cancellation)
  { noted with interrupted := true, cancelled := some left }

def process (o : Observer) (total : Nat) (process : List String → Except ChunkFault ChunkReport)
    (chunks : List (List String)) (arrivals : List Arrival) (run : Run) : Run :=
  let indexed := chunks.toArray
  let s := arrivals.foldl (receive o total process indexed)
    ⟨run, 0, [], List.range chunks.length⟩
  if s.run.interrupted then s.cancel o indexed else s.run

end Sequencer

end GestureLexicon
