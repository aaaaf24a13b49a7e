import ServerFleet.Collaborators.OnSystem
import ServerFleet.Console.Arguments
import ServerFleet.Console.Table
import ServerFleet.Logging
import ServerFleet.Store.Directory
import ServerFleet.Text.ControlSequence

/-!
# The console

A run of the command line: the arguments are read, logging is configured, the
settings are built from the environment with the options on top, and the command
is carried out over the hosts files of the configuration directory. `run` is the
run of a program whose logging is configured elsewhere, and `launch` that of the
whole program.

A problem with the settings or the configuration ends the run with exit code 1
before anything is dispatched. Faulty arguments end it with exit code 2. What
goes wrong afterwards is told, and the run still ends with 0. Any other failure,
such as that to print a table, ends the run with 1 and is passed on in `escaped`.

Messages are shown without the control sequences that a name in them may hold. A
table keeps them.
-/

namespace ServerFleet.Console

/-- How a run ended. -/
structure Ending where
  exit : Nat
  stdout : String := ""
  stderr : String := ""
  table : Option Table := none
  /-- A failure that the run does not deal with. -/
  escaped : Option Failure := none
  /-- The fault in the arguments, if they are faulty. -/
  usage : Option UsageFault := none
  /-- How logging was configured, if it was. -/
  logging : Option Logging.Arguments := none

/-- What a run works on: the files, and the world. -/
structure Site (σ : Type) where
  tree : FileTree
  world : σ

variable {σ : Type}

/-- The ending with its messages as they are shown. -/
def Ending.withoutSequences (e : Ending) : Ending :=
  { e with stdout := Text.withoutSequences e.stdout, stderr := Text.withoutSequences e.stderr }

def complaint (message : String) : String := "ERROR: " ++ message ++ "\n"

/-- The ending of a run that passes a failure on. -/
def escapeWith (e : Failure) : Ending := { exit := 1, escaped := some e }

/-- The ending of a run that met a failure: told if it is one with a context,
and passed on otherwise. -/
def endWith (e : Failure) : Ending :=
  match e.kind with
  | .reported _ => { exit := 1, stderr := complaint e.message }
  | _ => escapeWith e

/-- The ending of a run with faulty arguments. -/
def endUsage (fault : UsageFault) : Ending := { exit := 2, usage := some fault }

/-- The values that options set on top of the environment. -/
def overrides (g : Globals) : Entries :=
  (g.confDir.map fun dir => (Setting.confDir.key, Json.text (Path.parse dir).text)).toList ++
    (g.workersPerHost.map fun n => (Setting.workersPerHost.key, Json.int n)).toList

/-- How the options of every command have logging configured. -/
def Globals.logging (g : Globals) : Logging.Arguments := { debug := g.debug, force := true }

/-- The configuration directory of a run, if its arguments and settings are good. -/
def confDir? (env : Environment) (args : List String) : Option Path :=
  match readHead args with
  | .ok (.command g _ _) => (Settings.fromEnvironment env (overrides g)).toOption.map (·.confDir)
  | _ => none

/-- An action on the files. -/
def onFiles {α : Type} (a : Act FileTree α) : Act (Site σ) α :=
  a.zoom (·.tree) fun tree s => { s with tree := tree }

/-- An action in a session that begins with nothing known. -/
def inSession {α : Type} (a : Act (Session σ) α) : Act (Site σ) α :=
  a.zoom (fun s => { world := s.world }) fun session s => { s with world := session.world }

/-- Goes on with the result of an action, or ends the run with its failure. -/
def orEnd {α : Type} (ending : Failure → Ending) (a : Act (Site σ) α)
    (f : α → Act (Site σ) Ending) : Act (Site σ) Ending := do
  match ← a.attempt with
  | .ok x => f x
  | .error e => return ending e

/-- What is said of a report. -/
def summary (r : Report) : String :=
  r.operation ++ ": " ++ toString r.outcomes.length ++ " dispatched, " ++
    toString r.failures.length ++ " failed\n"

/-- What is warned of after a report. -/
def warnings (r : Report) : String :=
  (if r.adminOk = some false then
    "WARN : administrative request failed; forced path was used\n" else "") ++
  (if r.purgeOk = some false then
    "WARN : coordination cleanup failed; rerun stop or kill to retry\n" else "")

/-- The topology as a table. -/
def topologyTable (settings : Settings) (t : Topology) : Table where
  title := "Topology (" ++ settings.confDir.text ++ ")"
  columns := ["Role", "File", "Hosts"]
  rows := Role.all.map fun r => [r.name, r.hostsFile, ", ".intercalate (t.hosts r)]

variable (w : World σ) (env : Environment)

/-- Reads the topology from the configuration directory. -/
def loadTopology (settings : Settings) : Act (Site σ) Topology :=
  onFiles (Resolution.load (DirectoryStore.store settings.confDir))

/-- Carries out an operation on the fleet. -/
def operate (settings : Settings) (o : Operation) : Act (Site σ) Ending :=
  orEnd endWith (loadTopology settings) fun topology =>
    orEnd escapeWith (Act.ofExcept (Cluster.onSystem w env settings topology false)) fun cluster =>
      orEnd escapeWith (inSession (cluster.carryOut o)) fun report =>
        return { exit := 0, stdout := summary report, stderr := warnings report }

/-- Carries out what a command is asked to do. -/
def carryOut (settings : Settings) : Request → Act (Site σ) Ending
  | .help => return { exit := 0, stdout := helpText }
  | .createConfig host overwrite =>
    orEnd endWith (onFiles (Resolution.createDefaults (DirectoryStore.store settings.confDir) host
        overwrite)) fun written =>
      return {
        exit := 0
        stdout := "Created " ++ ", ".intercalate written ++ " in " ++ settings.confDir.text ++
          "\n" }
  | .show =>
    orEnd endWith (loadTopology settings) fun topology =>
      let table := topologyTable settings topology
      orEnd escapeWith (Act.ofExcept (w.draw table)) fun _ =>
        return { exit := 0, table := some table }
  | .operate o => operate w env settings o

/-- Builds the settings and carries out a command. -/
def runCommand (g : Globals) (name : CommandName) (rest : List String) : Act (Site σ) Ending :=
  match Settings.fromEnvironment env (overrides g) with
  | .error fault =>
    return { exit := 1, stderr := complaint ("Invalid settings: " ++ fault.headline) }
  | .ok settings => match readRequest name rest with
    | .error fault => return endUsage fault
    | .ok request => carryOut w env settings request

/-- Runs the command line with some arguments. -/
def run (args : List String) : Act (Site σ) Ending :=
  match readHead args with
  | .error fault => return endUsage fault
  | .ok .help => return { exit := 0, stdout := helpText }
  | .ok (.command g name rest) => do
    let ending ← runCommand w env g name rest
    return { ending.withoutSequences with logging := some g.logging }

/-- Configures the logging of a program that has not logged yet. A log file that is not there
is made. -/
def configureLogging (g : Globals) : Act FileTree Unit :=
  Act.consult fun t => match Logging.Logger.configure {} g.logging env t with
    | .ok (_, t) => (.ok (), t)
    | .error e => (.error e, t)

/-- Runs the program with some arguments. Logging is configured when the options of every
command are read, and nothing else is done if that fails. -/
def launch (args : List String) : Act (Site σ) Ending :=
  match readHead args with
  | .ok (.command g _ _) =>
    orEnd escapeWith (onFiles (configureLogging env g)) fun _ => run w env args
  | _ => run w env args

end ServerFleet.Console
