import ServerFleet.Console

/-!
# The command line

Reads the variables and the hosts files, carries out the command, writes the
files that changed, and shows what came of it.

No process is started and no host is reached from here: every such call is
answered by a failure, which the run tells like any other.
-/

namespace ServerFleet.Console

/-- The answer to a call that would leave this program. -/
def unavailable : Failure := .raised (.system .general) "not available from here" []

/-- A world in which nothing but waiting succeeds. -/
def offline : World Unit where
  control call s := match call with
    | .sleep _ => .finish (.ok ()) s
    | _ => .finish (.error unavailable) s
  process _ _ _ s := (.failed unavailable, s)
  connect _ _ s := (.error unavailable, s)
  runOver _ _ _ s := (.failed unavailable, s)
  machine s :=
    (⟨.error unavailable, .error unavailable, fun _ => .error unavailable, .error unavailable,
      .error unavailable⟩, s)
  callback _ _ _ s := .finish (.ok ()) s
  buildContext s := (⟨"none", .error unavailable⟩, s)
  closeContext _ s := (.ok (), s)
  homeOf _ := none

/-- The variables that a run looks at. -/
def variableNames : List String :=
  ["HOME", "PATH", "FC_LOG_LEVEL", "FC_LOG_JSON", "FC_LOG_FILE"] ++
    Setting.all.filterMap Setting.variableName

def readEnvironment : IO Environment :=
  variableNames.filterMapM fun name => do
    return (← IO.getEnv name).map (name, ·)

/-- What is on the disk at a path. -/
def readNode? (path : Path) : IO (Option Node) := do
  match ← (IO.FS.realPath path.text).toBaseIO with
  | .error _ => return none
  | .ok place =>
    if ← place.isDir then return some .directory
    return some (.file (← IO.FS.readBinFile place).toList)

/-- A tree with what is on the disk at a path and at those above it. -/
def readAlong (t : FileTree) (path : Path) : IO FileTree :=
  (List.range path.parts.length).foldlM (fun t k => do
    let path := { path with parts := path.parts.take (k + 1) }
    match t.locate path, ← readNode? path with
    | .ok place, some node => return t.put place node
    | _, _ => return t) t

/-- The path of a place. -/
def pathOf (place : Place) : Path :=
  if place.head? = some "/" then ⟨1, place.tail⟩ else ⟨0, place⟩

/-- Writes what one tree has and another one has not. -/
def writeChanges (before after : FileTree) : IO Unit :=
  after.nodes.forM fun (place, node) => do
    if before.node? place ≠ some node then
      match node with
      | .directory => IO.FS.createDirAll (pathOf place).text
      | .file bytes => IO.FS.writeBinFile (pathOf place).text ⟨bytes.toArray⟩

/-- Writes a line of the log where it goes. -/
def writeLine : Logging.Target × Logging.Line → IO Unit
  | (.standardError, line) => IO.eprintln line.text
  | (.file path, line) => do
    let log ← IO.FS.Handle.mk path.text .append
    log.putStrLn line.text

/-- Shows how a run ended. -/
def Ending.tell (e : Ending) : IO Unit := do
  if let some fault := e.usage then IO.eprintln ("Error: " ++ fault.message)
  if let some failure := e.escaped then IO.eprintln ("Error: " ++ failure.message)
  if let some table := e.table then table.lines.forM IO.println
  IO.print e.stdout
  IO.eprint e.stderr

/-- The log file of a run, if its arguments are good. -/
def logFile? (env : Environment) (args : List String) : Option Path :=
  match readHead args with
  | .ok (.command g _ _) => (g.logging.file? env).map Logging.filePath
  | _ => none

/-- The files that a run may read. -/
def filesOf (env : Environment) (args : List String) : List Path :=
  let hosts := match confDir? env args with
    | some dir => (Resolution.hostsFiles ++ Resolution.legacyFiles).map fun name =>
        DirectoryStore.pathOf dir name
    | none => []
  hosts ++ (logFile? env args).toList

/-- Carries out the command that the arguments name. -/
def serve (args : List String) : IO UInt32 := do
  let env ← readEnvironment
  let tree ← (filesOf env args).foldlM readAlong {}
  let ran := (launch offline env args).run ⟨tree, ()⟩
  match ran.result with
  | .error failure =>
    IO.eprintln ("Error: " ++ failure.message)
    return 1
  | .ok ending =>
    writeChanges tree ran.state.tree
    if let some arguments := ending.logging then
      if let .ok (logger, _) := Logging.Logger.configure {} arguments env tree then
        (ran.events.filterMap Logging.Record.ofEvent?).forM fun record =>
          (logger.emit record).forM writeLine
    ending.tell
    return ending.exit.toUInt32

end ServerFleet.Console

def main (args : List String) : IO UInt32 := ServerFleet.Console.serve args
