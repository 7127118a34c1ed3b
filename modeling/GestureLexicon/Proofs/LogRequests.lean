import GestureLexicon.Proofs.LogHandlers
import Mathlib

/-!
Requests for logging one after another, each of them granted or refused. A request leaves the
handlers of other programs and behind them its own, the one of its file before that of its console.
Of the requests before it a single handler can be left, the one of a console that stands behind the
handler of a file that cannot be closed. Main statement: `Logging.handlers_after_requests`.
-/

namespace GestureLexicon

def LogRequest.asksFile (request : LogRequest) : Bool :=
  match request.logFile with
  | .null => false
  | _ => true

namespace Handler
variable {files : FileStore} {e : LogEvent} {handlers : List Handler} {h : Handler}

def IsFile (h : Handler) : Prop := ∃ path least unwritten, h = .file path least unwritten

def IsConsole (h : Handler) : Prop := ∃ least, h = .console least

theorem take_of_isForeign (foreign : h.isForeign) : take files e h = h := by
  cases h with
  | foreign id => rfl
  | _ => exact nomatch foreign

theorem map_take_of_foreign (foreign : ∀ h ∈ handlers, h.isForeign) :
    handlers.map (take files e) = handlers := by
  conv_rhs => rw [← List.map_id handlers]
  exact List.map_congr_left fun h member => take_of_isForeign (foreign h member)

theorem exists_take_file (path : String) (least : Nat) (unwritten : Bool) :
    ∃ left, take files e (.file path least unwritten) = .file path least left := by
  rw [take]
  split <;> exact ⟨_, rfl⟩

theorem closed_of_foreign (foreign : ∀ h ∈ handlers, h.isForeign) :
    ∀ h ∈ handlers, h.close files = .ok () := by
  intro h member
  cases h with
  | foreign id => rfl
  | _ => exact nomatch foreign _ member

end Handler

namespace LogRequest
variable {request : LogRequest} {file console : Option Handler}

structure Adds (request : LogRequest) (file console : Option Handler) : Prop where
  file : ∀ h ∈ file, ∃ path least unwritten, request.logFile = .text path ∧
    Severity.thresholdOf request.fileLevel = .ok least ∧ h = .file path least unwritten
  console : ∀ h ∈ console, ∃ least, request.quiet = false ∧
    Severity.thresholdOf request.consoleLevel = .ok least ∧ h = .console least

theorem adds_none (request : LogRequest) : request.Adds none none :=
  ⟨fun h member => absurd member (Option.not_mem_none h),
    fun h member => absurd member (Option.not_mem_none h)⟩

theorem adds_fileHandler? (request : LogRequest) (files : FileStore) :
    request.Adds (request.fileHandler? files) none := by
  refine ⟨fun h added => ?_, nofun⟩
  unfold fileHandler? at added
  split at added
  · split at added
    · exact ⟨_, _, false, ‹_›, ‹_›, (Option.some.inj added).symm⟩
    · exact nomatch added
  · exact nomatch added

theorem Adds.withConsole (adds : request.Adds file none) {least : Nat}
    (asked : request.quiet = false)
    (level : Severity.thresholdOf request.consoleLevel = .ok least) :
    request.Adds file (some (.console least)) :=
  ⟨adds.file, fun _ member => ⟨least, asked, level, (Option.some.inj member).symm⟩⟩

theorem Adds.take (adds : request.Adds file console) (files : FileStore) (e : LogEvent) :
    request.Adds (file.map (Handler.take files e)) console := by
  refine ⟨fun h member => ?_, adds.console⟩
  obtain ⟨before, among, rfl⟩ := Option.mem_map.mp member
  obtain ⟨path, least, unwritten, asked, named, rfl⟩ := adds.file before among
  obtain ⟨left, same⟩ := Handler.exists_take_file path least unwritten
  exact ⟨path, least, left, asked, named, same⟩

end LogRequest

namespace Logging

/-- The handlers of other programs and behind them at most one of a file and one of the console. -/
def Arranged (others : List Handler) (l : Logging) : Prop :=
  ∃ file console : Option Handler, l.handlers = others ++ file.toList ++ console.toList ∧
    (∀ h ∈ file, h.IsFile) ∧ ∀ h ∈ console, h.IsConsole

/-- What logging may have come to after requests one after another. In between, events have been
logged and other programs may have changed the files. -/
inductive Reached (start : Logging) : Logging → Prop
  | refl : Reached start start
  | request {l : Logging} (reached : Reached start l) (request : LogRequest) :
      Reached start (l.configure request).1
  | event {l : Logging} (reached : Reached start l) (e : LogEvent) : Reached start (l.log e)
  | files {l : Logging} (reached : Reached start l) (files : FileStore) :
      Reached start { l with files }

variable {start l : Logging} {others : List Handler} {file console : Option Handler}
  {request : LogRequest}

theorem handlers_log (foreign : ∀ h ∈ others, h.isForeign)
    (arranged : l.handlers = others ++ file.toList ++ console.toList)
    (named : ∀ h ∈ console, h.IsConsole) (e : LogEvent) :
    (l.log e).handlers =
      others ++ (file.map (Handler.take l.files e)).toList ++ console.toList := by
  have kept : console.toList.map (Handler.take l.files e) = console.toList := by
    cases console with
    | none => rfl
    | some h =>
      obtain ⟨least, rfl⟩ := named h rfl
      rfl
  rw [log, arranged, List.map_append, List.map_append, Handler.map_take_of_foreign foreign, kept]
  cases file <;> rfl

theorem Arranged.log (arranged : Arranged others l) (foreign : ∀ h ∈ others, h.isForeign)
    (e : LogEvent) : Arranged others (l.log e) := by
  obtain ⟨file, console, shape, filed, named⟩ := arranged
  refine ⟨_, console, handlers_log foreign shape named e, ?_, named⟩
  intro h member
  obtain ⟨before, among, rfl⟩ := Option.mem_map.mp member
  obtain ⟨path, least, unwritten, rfl⟩ := filed before among
  obtain ⟨left, same⟩ := Handler.exists_take_file path least unwritten
  exact ⟨path, least, left, same⟩

theorem withLogFile_eq_ok_iff (l : Logging) (request : LogRequest) :
    (l.withLogFile request.logFile request.fileLevel).2 = .ok () ↔
      (request.asksFile → (request.fileHandler? l.files).isSome) := by
  unfold LogRequest.asksFile LogRequest.fileHandler?
  cases request.logFile with
  | null => simp [withLogFile]
  | text path =>
    simp only [withLogFile, withFile]
    cases l.files.openFile path with
    | error fault => simp
    | ok files => cases Severity.thresholdOf request.fileLevel <;> simp
  | _ => simp [withLogFile]

/-- A request where there are no handlers but those of other programs. -/
theorem configure_of_foreign (foreign : ∀ h ∈ l.handlers, h.isForeign) (request : LogRequest) :
    ∃ file console : Option Handler,
      (l.configure request).1.handlers = l.handlers ++ file.toList ++ console.toList ∧
      request.Adds file console ∧ ((l.configure request).2 = .ok () ↔
        (request.asksFile → file.isSome) ∧ (request.quiet = false → console.isSome)) := by
  have cleared : l.cleared = (l, .ok ()) := by
    rw [cleared_of_closed (Handler.closed_of_foreign foreign), List.filter_eq_self.mpr foreign]
  have filed := (l.handlers_withLogFile request).1
  have opened := l.withLogFile_eq_ok_iff request
  have adds := request.adds_fileHandler? l.files
  generalize request.fileHandler? l.files = file at *
  rw [configure, cleared]
  change ∃ file console, (andThen _ (andThen _ (l.withLogFile request.logFile
    request.fileLevel))).1.handlers = _ ∧ _ ∧ ((andThen _ (andThen _ (l.withLogFile
      request.logFile request.fileLevel))).2 = _ ↔ _)
  generalize l.withLogFile request.logFile request.fileLevel = stage at *
  obtain ⟨first, result⟩ := stage
  have plain : first.handlers = l.handlers ++ file.toList ++ (none : Option Handler).toList :=
    filed.trans (List.append_nil _).symm
  cases result with
  | error fault => exact ⟨file, none, plain, adds, by simp [andThen, ← opened]⟩
  | ok _ =>
    have fine : request.asksFile → file.isSome := opened.mp rfl
    cases asked : request.quiet with
    | true =>
      have silent : ∀ h ∈ (none : Option Handler), h.IsConsole :=
        fun h member => absurd member (Option.not_mem_none h)
      refine ⟨_, none, handlers_log foreign plain silent _, adds.take _ _, ?_⟩
      simpa [andThen] using fine
    | false =>
      cases level : Severity.thresholdOf request.consoleLevel with
      | error e =>
        refine ⟨file, none, ?_, adds, ?_⟩
        · simpa [andThen, withConsole, level] using plain
        · simp [andThen, withConsole, level]
      | ok least =>
        have whole : (first.attach (.console least)).handlers =
            l.handlers ++ file.toList ++ (some (Handler.console least)).toList :=
          congrArg (· ++ [Handler.console least]) filed
        have named : ∀ h ∈ some (Handler.console least), h.IsConsole :=
          fun h member => ⟨least, (Option.some.inj member).symm⟩
        have shown := handlers_log foreign whole named (.initialized request.logFile)
        refine ⟨file.map (Handler.take (first.attach (.console least)).files
          (.initialized request.logFile)), some (.console least), ?_,
          (adds.withConsole asked level).take _ _, ?_⟩
        · simpa [andThen, withConsole, level] using shown
        · simpa [andThen, withConsole, level] using fine

theorem configure_of_closed (closed : ∀ h ∈ l.handlers, h.close l.files = .ok ())
    (kept : l.handlers.filter Handler.isForeign = others) (request : LogRequest) :
    l.configure request = { l with handlers := others }.configure request := by
  have alone : ∀ h ∈ others, h.close l.files = .ok () := fun h member => by
    rw [← kept] at member
    exact closed h (List.mem_filter.mp member).1
  have same : others.filter Handler.isForeign = others := by
    rw [← kept, List.filter_filter]
    simp only [Bool.and_self]
  rw [configure, configure, cleared_of_closed closed, cleared_of_closed alone, kept]
  simp only [same]

theorem cleared_of_stuck_file {file : Handler} {after : List Handler} {reason : FileFault}
    (foreign : ∀ h ∈ others, h.isForeign) (line : l.handlers = others ++ file :: after)
    (stuck : file.close l.files = .error reason) :
    l.cleared = ({ l with handlers := others ++ after }, .error (.file reason)) := by
  rw [cleared, line, Handler.removeOwn_of_stuck (Handler.closed_of_foreign foreign) stuck,
    List.filter_eq_self.mpr foreign]
  rfl

theorem configure_of_stuck_file {file : Handler} {after : List Handler} {reason : FileFault}
    (foreign : ∀ h ∈ others, h.isForeign) (line : l.handlers = others ++ file :: after)
    (stuck : file.close l.files = .error reason) (request : LogRequest) :
    l.configure request = ({ l with handlers := others ++ after }, .error (.file reason)) := by
  rw [configure, cleared_of_stuck_file foreign line stuck]
  rfl

/-- Of the handlers of earlier requests only the one of a file can resist to be closed. -/
theorem Arranged.closed_or_stuck (arranged : Arranged others l)
    (foreign : ∀ h ∈ others, h.isForeign) :
    (∀ h ∈ l.handlers, h.close l.files = .ok ()) ∧ l.handlers.filter Handler.isForeign = others ∨
      ∃ file reason, ∃ console : Option Handler, l.handlers = others ++ file :: console.toList ∧
        (∀ h ∈ console, h.IsConsole) ∧ file.close l.files = .error reason := by
  obtain ⟨file, console, shape, filed, named⟩ := arranged
  have plain : ∀ h ∈ console.toList, h.close l.files = .ok () ∧ h.isForeign = false := by
    intro h member
    obtain ⟨least, rfl⟩ := named h (Option.mem_toList.mp member)
    exact ⟨rfl, rfl⟩
  have others_closed : ∀ h ∈ others, h.close l.files = .ok () := Handler.closed_of_foreign foreign
  have removed : console.toList.filter Handler.isForeign = [] :=
    List.filter_eq_nil_iff.mpr fun h member => by simp [(plain h member).2]
  cases file with
  | none =>
    refine .inl ⟨fun h member => ?_, ?_⟩
    · rw [shape, Option.toList_none, List.append_nil, List.mem_append] at member
      exact member.elim (others_closed h) fun among => (plain h among).1
    · rw [shape, List.filter_append, removed, Option.toList_none]
      simpa using foreign
  | some h =>
    have line : l.handlers = others ++ h :: console.toList := by
      rw [shape, Option.toList_some, List.append_assoc, List.singleton_append]
    cases closing : h.close l.files with
    | error reason => exact .inr ⟨h, reason, console, line, named, closing⟩
    | ok _ =>
      obtain ⟨path, least, unwritten, rfl⟩ := filed h rfl
      refine .inl ⟨fun other member => ?_, ?_⟩
      · rw [line, List.mem_append, List.mem_cons] at member
        rcases member with among | rfl | among
        · exact others_closed other among
        · exact closing
        · exact (plain other among).1
      · rw [line, List.filter_append, List.filter_cons, removed]
        simpa [Handler.isForeign] using foreign

theorem Arranged.configure (arranged : Arranged others l) (foreign : ∀ h ∈ others, h.isForeign)
    (request : LogRequest) : Arranged others (l.configure request).1 := by
  rcases arranged.closed_or_stuck foreign with
    ⟨closed, kept⟩ | ⟨file, reason, console, line, named, stuck⟩
  · rw [configure_of_closed closed kept]
    obtain ⟨file, console, shape, adds, _⟩ :=
      configure_of_foreign (l := { l with handlers := others }) foreign request
    refine ⟨file, console, shape, fun h member => ?_, fun h member => ?_⟩
    · obtain ⟨path, least, unwritten, _, _, rfl⟩ := adds.file h member
      exact ⟨path, least, unwritten, rfl⟩
    · obtain ⟨least, _, _, rfl⟩ := adds.console h member
      exact ⟨least, rfl⟩
  · rw [configure_of_stuck_file foreign line stuck]
    exact ⟨none, console, by simp, nofun, named⟩

theorem Reached.arranged (reached : start.Reached l) (foreign : ∀ h ∈ start.handlers, h.isForeign) :
    Arranged start.handlers l := by
  induction reached with
  | refl => exact ⟨none, none, by simp, nofun, nofun⟩
  | request _ request ih => exact ih.configure foreign request
  | event _ e ih => exact ih.log foreign e
  | files _ _ ih => exact ih

/-- The handler of a file that cannot be closed stands in front of the one of a console. -/
def Blocked (others : List Handler) (console : Handler) (reason : FileFault) (l : Logging) : Prop :=
  ∃ file, l.handlers = others ++ [file, console] ∧ file.close l.files = .error reason

theorem Arranged.isConsole_of_blocked {console : Handler} {reason : FileFault}
    (arranged : Arranged others l) (foreign : ∀ h ∈ others, h.isForeign)
    (blocked : l.Blocked others console reason) : console.IsConsole := by
  obtain ⟨file, line, stuck⟩ := blocked
  rcases arranged.closed_or_stuck foreign with ⟨closed, _⟩ | ⟨_, _, last, shape, named, _⟩
  · have fine : file.close l.files = .ok () := closed file (by simp [line])
    exact nomatch fine.symm.trans stuck
  · have behind := List.append_cancel_left (line.symm.trans shape)
    have same : last.toList = [console] := (List.cons.inj behind).2.symm
    exact named console (Option.mem_toList.mp (by simp [same]))

/-- After any requests, granted or refused, a further one removes the handlers of all of them and
leaves those of other programs as they were from the start. Behind these stand at most one handler
of a file and at most one of the console, both as it asks for them, and it is granted exactly if all
could be closed and it leaves each handler that it asks for. All this comes out as if no request had
been made before it, unless there is a handler of a file that cannot be closed: then the request ends
there, and the console that stands behind that handler, if there is one, is still there. -/
theorem handlers_after_requests (foreign : ∀ h ∈ start.handlers, h.isForeign)
    (reached : start.Reached l) (request : LogRequest) :
    let result := (l.configure request).2
    (∀ console reason, l.Blocked start.handlers console reason →
      console.IsConsole ∧ l.configure request =
        ({ l with handlers := start.handlers ++ [console] }, .error (.file reason))) ∧
    ((∀ console reason, ¬l.Blocked start.handlers console reason) →
      l.cleared.1.handlers = start.handlers ∧
      ∃ file console : Option Handler,
        (l.configure request).1.handlers = start.handlers ++ file.toList ++ console.toList ∧
        request.Adds file console ∧
        (result = .ok () ↔ l.cleared.2 = .ok () ∧ (request.asksFile → file.isSome) ∧
          (request.quiet = false → console.isSome)) ∧
        (l.cleared.2 = .ok () →
          l.configure request = { l with handlers := start.handlers }.configure request) ∧
        ∀ fault, l.cleared.2 = .error fault →
          l.configure request = ({ l with handlers := start.handlers }, .error fault)) := by
  intro result
  constructor
  · intro console reason blocked
    refine ⟨(reached.arranged foreign).isConsole_of_blocked foreign blocked, ?_⟩
    obtain ⟨file, line, stuck⟩ := blocked
    exact configure_of_stuck_file foreign line stuck request
  · intro free
    rcases (reached.arranged foreign).closed_or_stuck foreign with
      ⟨closed, own⟩ | ⟨file, reason, console, line, named, stuck⟩
    · have same := configure_of_closed closed own request
      obtain ⟨file, console, shape, adds, granted⟩ :=
        configure_of_foreign (l := { l with handlers := start.handlers }) foreign request
      rw [← same] at shape granted
      rw [cleared_of_closed closed]
      exact ⟨own, file, console, shape, adds, by simpa [result] using granted, fun _ => same,
        by simp⟩
    · cases console with
      | some console => exact absurd ⟨file, line, stuck⟩ (free console reason)
      | none =>
        have ended := configure_of_stuck_file foreign line stuck request
        rw [cleared_of_stuck_file foreign line stuck]
        refine ⟨by simp, none, none, by simp [ended], request.adds_none, ?_, by simp, ?_⟩
        · simp [result, ended]
        · simp [ended]

def fullStore : FileStore := { entries := [(["a"], .bytes [])], full := [["a"]] }

theorem openFile_fullStore : fullStore.openFile "a" = .ok fullStore := by
  have target : Trail.ofPath "a" = ["a"] := by cbv
  have fine : fullStore.checkPath (Trail.toPath ["a"]) = .ok () := by cbv
  have inward : (["a"] : Trail).span Trail.isOutward = ([], ["a"]) := by cbv
  have led : fullStore.follow [] ["a"] = .ok ["a"] := by cbv
  have there : fullStore.at? ["a"] = some (.bytes []) := by cbv
  simp only [FileStore.openFile, target, fine, inward, led, there, bind, Except.bind]
  rfl

theorem configure_fullStore (others : List Handler) (foreign : ∀ h ∈ others, h.isForeign) :
    let start : Logging := ⟨others, fullStore⟩
    let request : LogRequest := { logFile := .text "a", consoleLevel := .text "ERROR" }
    start.configure request =
      (⟨others ++ [.file "a" 10 true, .console 40], fullStore⟩, .ok ()) := by
  intro start request
  have full : fullStore.isFull "a" = true := by cbv
  have cleared : start.cleared = (start, .ok ()) := by
    rw [cleared_of_closed (Handler.closed_of_foreign foreign), List.filter_eq_self.mpr foreign]
  have debug : Severity.thresholdOf (.text "DEBUG") = .ok 10 := rfl
  have error : Severity.thresholdOf (.text "ERROR") = .ok 40 := rfl
  simp only [configure, cleared, andThen, request, withLogFile, withFile, start, openFile_fullStore,
    debug, withConsole, error, attach, log]
  simp [Handler.take, full, Handler.map_take_of_foreign foreign, LogEvent.severity, Severity.rank]

theorem handlers_after_requests_full :
    let start : Logging := ⟨[.foreign 7, .foreign 1], fullStore⟩
    let request : LogRequest := { logFile := .text "a", consoleLevel := .text "ERROR" }
    let first := (start.configure request).1
    let second := (first.configure {}).1
    (∀ h ∈ start.handlers, h.isForeign) ∧ start.Reached first ∧
      first.Blocked start.handlers (.console 40) .noRoom ∧
      first.configure {} =
        ({ first with handlers := start.handlers ++ [.console 40] }, .error (.file .noRoom)) ∧
      start.Reached second ∧ (∀ console reason, ¬second.Blocked start.handlers console reason) ∧
      second.cleared.1.handlers = start.handlers ∧
      (second.configure {}).1.handlers = [.foreign 7, .foreign 1, .console 30] := by
  intro start request first second
  have foreign : ∀ h ∈ start.handlers, h.isForeign := by decide
  have once : start.Reached first := Reached.refl.request request
  have twice : start.Reached second := once.request {}
  have granted : first = ⟨start.handlers ++ [.file "a" 10 true, .console 40], fullStore⟩ :=
    congrArg Prod.fst (configure_fullStore start.handlers foreign)
  have full : fullStore.isFull "a" = true := by cbv
  have blocked : first.Blocked start.handlers (.console 40) .noRoom :=
    ⟨.file "a" 10 true, by rw [granted], by simp [granted, Handler.close, full]⟩
  have stopped := ((handlers_after_requests foreign once {}).1 _ _ blocked).2
  have left : second = { first with handlers := start.handlers ++ [.console 40] } :=
    congrArg Prod.fst stopped
  have free : ∀ console reason, ¬second.Blocked start.handlers console reason := by
    rintro console reason ⟨file, line, _⟩
    rw [left] at line
    simp [start] at line
  refine ⟨foreign, once, blocked, stopped, twice, free,
    ((handlers_after_requests foreign twice {}).2 free).1, ?_⟩
  rw [left]
  rfl

theorem console_survives :
    let start : Logging := ⟨[], fullStore⟩
    let request : LogRequest := { logFile := .text "a", consoleLevel := .text "ERROR" }
    let first := (start.configure request).1
    first.handlers = [.file "a" 10 true, .console 40] ∧
      (first.configure {}).1.handlers = [.console 40] ∧
      (first.configure {}).2 = .error (.file .noRoom) := by
  intro start request first
  have granted : first = ⟨[.file "a" 10 true, .console 40], fullStore⟩ :=
    congrArg Prod.fst (configure_fullStore [] nofun)
  have full : fullStore.isFull "a" = true := by cbv
  have stuck : (Handler.file "a" 10 true).close first.files = .error .noRoom := by
    simp [granted, Handler.close, full]
  have line : first.handlers = [] ++ .file "a" 10 true :: [.console 40] := by rw [granted]; rfl
  have stopped := configure_of_stuck_file (List.forall_mem_nil _) line stuck {}
  rw [stopped]
  exact ⟨line, rfl, rfl⟩

end Logging
end GestureLexicon
