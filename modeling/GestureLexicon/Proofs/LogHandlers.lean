import GestureLexicon.Logging

/-!
The handlers that a request for logging leaves behind. A request removes the handlers of the request
before it one after another and then adds its own. So a request that is refused leaves the handlers
of other programs and, where only the console was at fault, the new one of its file, unless one of
the old handlers could not be closed: then those behind it are still there. Main statement:
`handlers_of_refused`.
-/

namespace GestureLexicon

/-- The handler of the file that a request names, if the file opens and the level is one. -/
def LogRequest.fileHandler? (request : LogRequest) (files : FileStore) : Option Handler :=
  match request.logFile with
  | .text path =>
    match files.openFile path, Severity.thresholdOf request.fileLevel with
    | .ok _, .ok least => some (.file path least false)
    | _, _ => none
  | _ => none

namespace Handler
variable {files : FileStore} {h : Handler} {handlers before after : List Handler}
  {fault : FileFault}

theorem removeOwn_of_closed (closed : ∀ h ∈ handlers, h.close files = .ok ()) :
    removeOwn files handlers = (handlers.filter isForeign, .ok ()) := by
  induction handlers with
  | nil => rfl
  | cons h rest ih =>
    obtain ⟨first, closed⟩ := List.forall_mem_cons.mp closed
    cases foreign : h.isForeign <;> simp [removeOwn, foreign, first, ih closed]

theorem not_isForeign_of_stuck (stuck : h.close files = .error fault) : h.isForeign = false := by
  cases h with
  | foreign id => exact nomatch stuck
  | _ => rfl

theorem removeOwn_of_stuck (closed : ∀ h ∈ before, h.close files = .ok ())
    (stuck : h.close files = .error fault) :
    removeOwn files (before ++ h :: after) = (before.filter isForeign ++ after, .error fault) := by
  induction before with
  | nil => simp [removeOwn, not_isForeign_of_stuck stuck, stuck]
  | cons first rest ih =>
    obtain ⟨fine, closed⟩ := List.forall_mem_cons.mp closed
    cases foreign : first.isForeign <;> simp [removeOwn, foreign, fine, ih closed]

theorem closed_or_stuck (files : FileStore) (handlers : List Handler) :
    (∀ h ∈ handlers, h.close files = .ok ()) ∨
      ∃ before h after fault, handlers = before ++ h :: after ∧
        (∀ h ∈ before, h.close files = .ok ()) ∧ h.close files = .error fault := by
  induction handlers with
  | nil => exact .inl nofun
  | cons h rest ih =>
    cases first : h.close files with
    | error fault => exact .inr ⟨[], h, rest, fault, rfl, nofun, first⟩
    | ok _ =>
      rcases ih with closed | ⟨before, stuck, after, fault, rfl, closed, fails⟩
      · exact .inl (List.forall_mem_cons.mpr ⟨first, closed⟩)
      · exact .inr ⟨h :: before, stuck, after, fault, rfl,
          List.forall_mem_cons.mpr ⟨first, closed⟩, fails⟩

end Handler

namespace Logging
variable {l : Logging} {request : LogRequest} {fault : LoggingFault}

theorem cleared_of_closed (closed : ∀ h ∈ l.handlers, h.close l.files = .ok ()) :
    l.cleared = ({ l with handlers := l.handlers.filter Handler.isForeign }, .ok ()) := by
  rw [cleared, Handler.removeOwn_of_closed closed]
  rfl

theorem configure_of_stuck {before after : List Handler} {h : Handler} {reason : FileFault}
    (split : l.handlers = before ++ h :: after)
    (closed : ∀ h ∈ before, h.close l.files = .ok ()) (stuck : h.close l.files = .error reason)
    (request : LogRequest) : l.configure request =
      ({ l with handlers := before.filter Handler.isForeign ++ after }, .error (.file reason)) := by
  rw [configure, cleared, split, Handler.removeOwn_of_stuck closed stuck]
  rfl

/-- The handler of a file is added unless the file or its level is refused. -/
theorem handlers_withLogFile (l : Logging) (request : LogRequest) :
    let filed := l.withLogFile request.logFile request.fileLevel
    filed.1.handlers = l.handlers ++ (request.fileHandler? l.files).toList ∧
      ∀ fault, filed.2 = .error fault → request.fileHandler? l.files = none := by
  have kept : l.handlers = l.handlers ++ (none : Option Handler).toList :=
    (List.append_nil _).symm
  unfold LogRequest.fileHandler?
  cases request.logFile with
  | text path =>
    simp only [withLogFile, withFile]
    cases l.files.openFile path with
    | error fault => exact ⟨kept, fun _ _ => rfl⟩
    | ok files =>
      cases Severity.thresholdOf request.fileLevel with
      | error e => exact ⟨kept, fun _ _ => rfl⟩
      | ok least => exact ⟨rfl, fun _ refused => nomatch refused⟩
  | _ => exact ⟨kept, fun _ _ => rfl⟩

/-- Where all can be closed, a refused request adds at most the handler of its file, and this only
if it is the console that is refused. -/
theorem handlers_of_refused_closed (closed : ∀ h ∈ l.handlers, h.close l.files = .ok ())
    (refused : (l.configure request).2 = .error fault) :
    let added := request.fileHandler? l.files
    (l.configure request).1.handlers = l.handlers.filter Handler.isForeign ++ added.toList ∧
      (added.isSome → request.quiet = false ∧
        ∃ e, fault = .level e ∧ Severity.thresholdOf request.consoleLevel = .error e) := by
  intro added
  let others : Logging := { l with handlers := l.handlers.filter Handler.isForeign }
  obtain ⟨filed, dropped⟩ := others.handlers_withLogFile request
  rw [configure, cleared_of_closed closed] at refused ⊢
  change (andThen _ (andThen _ (others.withLogFile request.logFile request.fileLevel))).2 = _
    at refused
  change (andThen _ (andThen _ (others.withLogFile request.logFile request.fileLevel))).1.handlers
    = _ ∧ _
  generalize others.withLogFile request.logFile request.fileLevel = stage at *
  obtain ⟨first, result⟩ := stage
  cases result with
  | error other =>
    have absent : added = none := dropped other rfl
    exact ⟨filed, fun found => by rw [absent] at found; exact nomatch found⟩
  | ok _ =>
    cases quiet : request.quiet with
    | true =>
      rw [quiet] at refused
      exact nomatch refused
    | false =>
      rw [quiet] at refused
      cases level : Severity.thresholdOf request.consoleLevel with
      | error e =>
        simp only [andThen, withConsole, level] at refused ⊢
        exact ⟨filed, fun _ => ⟨trivial, e, (Except.error.inj refused).symm, rfl⟩⟩
      | ok least =>
        simp only [andThen, withConsole, level] at refused
        exact nomatch refused

/-- A request is refused where an old handler cannot be closed, and leaves those behind it. Else it
leaves the handlers of other programs, in their order, and behind them the new one of a file if it
was the console that was refused. So where no such handler was added nothing has changed exactly if
there were no own handlers before. -/
theorem handlers_of_refused (refused : (l.configure request).2 = .error fault) :
    let kept := l.handlers.filter Handler.isForeign
    let added := request.fileHandler? l.files
    let handlers := (l.configure request).1.handlers
    (∃ before h after reason, l.handlers = before ++ h :: after ∧
      (∀ h ∈ before, h.close l.files = .ok ()) ∧ h.close l.files = .error reason ∧
      fault = .file reason ∧ handlers = before.filter Handler.isForeign ++ after) ∨
    (∀ h ∈ l.handlers, h.close l.files = .ok ()) ∧
      handlers = kept ++ added.toList ∧
      (added.isSome → request.quiet = false ∧
        ∃ e, fault = .level e ∧ Severity.thresholdOf request.consoleLevel = .error e) ∧
      (added = none → (handlers = l.handlers ↔ ∀ h ∈ l.handlers, h.isForeign)) := by
  intro kept added handlers
  rcases Handler.closed_or_stuck l.files l.handlers with
    closed | ⟨before, h, after, reason, split, closed, stuck⟩
  · obtain ⟨shape, late⟩ := handlers_of_refused_closed closed refused
    refine .inr ⟨closed, shape, late, fun absent => ?_⟩
    change handlers = kept ++ added.toList at shape
    rw [shape, absent, Option.toList_none, List.append_nil]
    exact List.filter_eq_self
  · have ended := configure_of_stuck split closed stuck request
    rw [ended] at refused
    exact .inl ⟨before, h, after, reason, split, closed, stuck, (Except.error.inj refused).symm,
      congrArg (·.1.handlers) ended⟩

/-- A request that asks for no file and a level that is none. -/
theorem handlers_of_refused_console :
    let l : Logging := ⟨[.console 30, .foreign 1], .empty⟩
    let request : LogRequest := { consoleLevel := .text "LOUD" }
    (l.configure request).2 = .error (.level (.unknown "LOUD")) ∧
      (l.configure request).1.handlers = [.foreign 1] := by
  intro l request
  have refused : (l.configure request).2 = .error (.level (.unknown "LOUD")) := rfl
  have closed : ∀ h ∈ l.handlers, h.close l.files = .ok () := by
    simp [l, Handler.close]
  refine ⟨refused, ?_⟩
  rcases handlers_of_refused refused with stuck | ⟨_, handlers, _⟩
  · obtain ⟨before, h, after, reason, split, _, fails, _⟩ := stuck
    have among : h ∈ l.handlers := split ▸ List.mem_append_right before List.mem_cons_self
    exact nomatch (closed h among).symm.trans fails
  · exact handlers

/-- A console that worked is gone after a request for an unknown level. -/
theorem handlers_lost :
    let l : Logging := ⟨[.console 30], .empty⟩
    let request : LogRequest := { consoleLevel := .text "LOUD" }
    (l.configure request).2 = .error (.level (.unknown "LOUD")) ∧
      (l.configure request).1.handlers ≠ l.handlers := by
  intro l request
  have refused : (l.configure request).2 = .error (.level (.unknown "LOUD")) := rfl
  have left : (l.configure request).1.handlers = [] := rfl
  refine ⟨refused, ?_⟩
  rw [left]
  exact (List.cons_ne_nil _ _).symm

end Logging
end GestureLexicon
