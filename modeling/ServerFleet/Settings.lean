import ServerFleet.Environment
import ServerFleet.Json
import ServerFleet.Number.Lenient
import ServerFleet.Path

/-!
# Settings

The knobs of the controller. `Settings.construct` checks a mapping of values,
and `Settings.fromEnvironment` builds that mapping from two layers: the
variables of the environment, and explicit values on top of them.

A variable that is a number and cannot be read counts as absent, and so does an
empty configuration directory and an explicit null. Every value is checked, and
the problems are reported in the order of the settings. Only when every value is
good are the two commands checked for being blank.
-/

namespace ServerFleet

/-! ## The settings and their values -/

/-- The settings, in their order. -/
inductive Setting where
  | confDir
  | serviceScript
  | adminCommand
  | launcher
  | workersPerHost
  | instanceVariable
  | sshUser
  | sshPort
  | sshKey
  | connectTimeout
  | commandTimeout
  | adminTimeout
  | adminGrace
  | workerGrace
  deriving DecidableEq

namespace Setting

def all : List Setting :=
  [confDir, serviceScript, adminCommand, launcher, workersPerHost, instanceVariable, sshUser,
    sshPort, sshKey, connectTimeout, commandTimeout, adminTimeout, adminGrace, workerGrace]

/-- The key under which a setting is given. -/
def key : Setting → String
  | confDir => "conf_dir"
  | serviceScript => "service_script"
  | adminCommand => "admin_command"
  | launcher => "server_cmd_prefix"
  | workersPerHost => "workers_per_host"
  | instanceVariable => "instance_env_var"
  | sshUser => "ssh_user"
  | sshPort => "ssh_port"
  | sshKey => "ssh_key"
  | connectTimeout => "connect_timeout"
  | commandTimeout => "command_timeout"
  | adminTimeout => "admin_timeout"
  | adminGrace => "admin_grace_seconds"
  | workerGrace => "worker_grace_seconds"

/-- The variable that a setting is read from. -/
def variableName : Setting → Option String
  | confDir => some "FC_CONF_DIR"
  | serviceScript => some "FC_SERVICE_SCRIPT"
  | adminCommand => some "FC_ADMIN_COMMAND"
  | launcher => some "FC_SERVER_CMD_PREFIX"
  | workersPerHost => some "FC_WORKERS_PER_HOST"
  | instanceVariable => none
  | sshUser => some "FC_SSH_USER"
  | sshPort => some "FC_SSH_PORT"
  | sshKey => some "FC_SSH_KEY"
  | connectTimeout => some "FC_CONNECT_TIMEOUT"
  | commandTimeout => some "FC_COMMAND_TIMEOUT"
  | adminTimeout => some "FC_ADMIN_TIMEOUT"
  | adminGrace => some "FC_ADMIN_GRACE_SECONDS"
  | workerGrace => some "FC_WORKER_GRACE_SECONDS"

theorem mem_all (s : Setting) : s ∈ all := by cases s <;> decide

end Setting

/-- The knobs of the controller. -/
structure Settings where
  /-- The directory that holds the hosts files. -/
  confDir : Path
  /-- The script run as `script role command` for an instance. -/
  serviceScript : String
  /-- The command that carries out administrative requests. -/
  adminCommand : String
  /-- The words put before the service script. -/
  launcher : String
  /-- How many instances each worker host runs. -/
  workersPerHost : Nat
  /-- The variable that tells the service script the number of the instance. -/
  instanceVariable : String
  sshUser : Option String
  sshPort : Nat
  sshKey : Option String
  connectTimeout : Float
  commandTimeout : Option Float
  adminTimeout : Float
  /-- The wait after the request to stop everything. -/
  adminGrace : Float
  /-- The wait between stopping and killing workers. -/
  workerGrace : Float

namespace Settings

/-- The value of a setting. -/
def value (s : Settings) : Setting → Json
  | .confDir => .text s.confDir.text
  | .serviceScript => .text s.serviceScript
  | .adminCommand => .text s.adminCommand
  | .launcher => .text s.launcher
  | .workersPerHost => .int s.workersPerHost
  | .instanceVariable => .text s.instanceVariable
  | .sshUser => (s.sshUser.map .text).getD .null
  | .sshPort => .int s.sshPort
  | .sshKey => (s.sshKey.map .text).getD .null
  | .connectTimeout => .float s.connectTimeout
  | .commandTimeout => (s.commandTimeout.map .float).getD .null
  | .adminTimeout => .float s.adminTimeout
  | .adminGrace => .float s.adminGrace
  | .workerGrace => .float s.workerGrace

/-- The values of all settings under their keys. -/
def entries (s : Settings) : Entries := Setting.all.map fun k => (k.key, s.value k)

/-! ## Checking values -/

/-- Why a value does not fit a setting. -/
inductive ValueFault where
  | notText
  | notPath
  | notInteger
  | unreadableInteger
  | oversizedInteger
  | fractionalInteger
  | notFinite
  | notNumber
  | unreadableNumber
  | below (least : Nat)
  | notAbove (bound : Nat)
  deriving DecidableEq

/-- The code of a fault. -/
def ValueFault.code : ValueFault → String
  | notText => "string_type"
  | notPath => "path_type"
  | notInteger => "int_type"
  | unreadableInteger => "int_parsing"
  | oversizedInteger => "int_parsing_size"
  | fractionalInteger => "int_from_float"
  | notFinite => "finite_number"
  | notNumber => "float_type"
  | unreadableNumber => "float_parsing"
  | below _ => "greater_than_equal"
  | notAbove _ => "greater_than"

def ValueFault.message : ValueFault → String
  | notText => "Input should be a valid string"
  | notPath => "Input is not a valid path for <class 'pathlib.Path'>"
  | notInteger => "Input should be a valid integer"
  | unreadableInteger =>
    "Input should be a valid integer, unable to parse string as an integer"
  | oversizedInteger => "Unable to parse input string as an integer, exceeded maximum size"
  | fractionalInteger =>
    "Input should be a valid integer, got a number with a fractional part"
  | notFinite => "Input should be a finite number"
  | notNumber => "Input should be a valid number"
  | unreadableNumber => "Input should be a valid number, unable to parse string as a number"
  | below least => "Input should be greater than or equal to " ++ toString least
  | notAbove bound => "Input should be greater than " ++ toString bound

/-- A value that does not fit its setting. -/
structure Problem where
  setting : Setting
  fault : ValueFault
  deriving DecidableEq

/-- The commands that must not be blank. -/
inductive RequiredCommand where
  | serviceScript
  | adminCommand
  deriving DecidableEq

/-- Why a mapping of values gives no settings. -/
inductive Fault where
  | invalid (problems : List Problem)
  | blank (command : RequiredCommand)
  deriving DecidableEq

def RequiredCommand.setting : RequiredCommand → Setting
  | .serviceScript => .serviceScript
  | .adminCommand => .adminCommand

def RequiredCommand.message (c : RequiredCommand) : String :=
  "Value error, ControlSettings: '" ++ c.setting.key ++ "' must be non-empty"

/-- How many errors are reported. -/
def Fault.count : Fault → Nat
  | .invalid problems => problems.length
  | .blank _ => 1

/-- The first line of the report. -/
def Fault.headline (f : Fault) : String :=
  toString f.count ++ (if f.count = 1 then " validation error" else " validation errors") ++
    " for ControlSettings"

def readText : Json → Except ValueFault String
  | .text s => .ok s
  | _ => .error .notText

def readPath : Json → Except ValueFault Path
  | .text s => .ok (Path.parse s)
  | _ => .error .notPath

/-- The integer that a double is, if it fits 64 bits. -/
def integerOfFloat (x : Float) : Except ValueFault Int :=
  if x.isNaN || x.isInf then .error .notFinite
  else if x.floor != x then .error .fractionalInteger
  else if -9223372036854775808.0 < x && x < 9223372036854775808.0 then .ok x.toInt64.toInt
  else .error .oversizedInteger

/-- Reads an integer, which may be given as a truth value, as a double without
a fraction or as text. -/
def readInteger : Json → Except ValueFault Int
  | .int n => .ok n
  | .bool b => .ok (if b then 1 else 0)
  | .float x => integerOfFloat x
  | .text s => match Number.lenientInteger s with
    | .ok n => .ok n
    | .error .unreadable => .error .unreadableInteger
    | .error .oversized => .error .oversizedInteger
  | _ => .error .notInteger

/-- The double nearest to an integer, if that is finite. -/
def floatOfInteger (n : Int) : Except ValueFault Float :=
  let x := Number.nearest n.natAbs 0
  if x.isInf then .error .notNumber else .ok (if n < 0 then -x else x)

/-- Reads a number, which may be given as an integer, a truth value or text. -/
def readNumber : Json → Except ValueFault Float
  | .float x => .ok x
  | .int n => floatOfInteger n
  | .bool b => .ok (if b then 1.0 else 0.0)
  | .text s => match Number.lenientNumber? s with
    | some x => .ok x
    | none => .error .unreadableNumber
  | _ => .error .notNumber

/-- Reads a value that may be null. -/
def readOptional {α : Type} (read : Json → Except ValueFault α) : Json → Except ValueFault (Option α)
  | .null => .ok none
  | j => some <$> read j

/-- An integer that is at least `least`. -/
def atLeast (least : Nat) (n : Int) : Except ValueFault Nat :=
  if (least : Int) ≤ n then .ok n.toNat else .error (.below least)

/-- A positive integer. -/
def positive (n : Int) : Except ValueFault Nat :=
  if 0 < n then .ok n.toNat else .error (.notAbove 0)

/-- A duration that something can be waited for. -/
def duration (x : Float) : Except ValueFault Float :=
  if 0.0 ≤ x then .ok x else .error (.below 0)

/-- A limit on the time that something may take. -/
def timeLimit (x : Float) : Except ValueFault Float :=
  if 0.0 < x then .ok x else .error (.notAbove 0)

/-! ## Collecting problems -/

/-- A value, or every problem met on the way to it. -/
abbrev Checked (α : Type) := Except (List Problem) α

/-- Applies a checked function to a checked value, and collects the problems of
both. -/
def Checked.apply {α β : Type} (f : Checked (α → β)) (a : Checked α) : Checked β :=
  match f, a with
  | .ok f, .ok a => .ok (f a)
  | .ok _, .error e => .error e
  | .error e, .ok _ => .error e
  | .error e, .error e' => .error (e ++ e')

theorem Checked.apply_eq_ok {α β : Type} {f : Checked (α → β)} {a : Checked α} {b : β} :
    f.apply a = .ok b ↔ ∃ g x, f = .ok g ∧ a = .ok x ∧ g x = b := by
  rcases f with e | g <;> rcases a with e' | x <;> simp [Checked.apply]

/-- The checked value of a setting: its default if it is not given. -/
def check {α : Type} (values : Entries) (s : Setting) (default : α)
    (read : Json → Except ValueFault α) : Checked α :=
  match values.get? s.key with
  | none => .ok default
  | some j => match read j with
    | .ok a => .ok a
    | .error fault => .error [⟨s, fault⟩]

/-- Checks every value by itself. -/
def checkValues (values : Entries) : Checked Settings :=
  let limit (j : Json) : Except ValueFault Float := readNumber j >>= timeLimit
  let wait (j : Json) : Except ValueFault Float := readNumber j >>= duration
  let settings : Checked _ := .ok Settings.mk
  settings
    |>.apply (check values .confDir (Path.parse "conf") readPath)
    |>.apply (check values .serviceScript "fleet-service" readText)
    |>.apply (check values .adminCommand "fleet-admin" readText)
    |>.apply (check values .launcher "" readText)
    |>.apply (check values .workersPerHost 1 fun j => readInteger j >>= atLeast 1)
    |>.apply (check values .instanceVariable "FC_SERVICE_INSTANCE" readText)
    |>.apply (check values .sshUser none (readOptional readText))
    |>.apply (check values .sshPort 22 fun j => readInteger j >>= positive)
    |>.apply (check values .sshKey none (readOptional readText))
    |>.apply (check values .connectTimeout 2.0 limit)
    |>.apply (check values .commandTimeout none (readOptional limit))
    |>.apply (check values .adminTimeout 30.0 limit)
    |>.apply (check values .adminGrace 5.0 wait)
    |>.apply (check values .workerGrace 10.0 wait)

/-- Whether a text has no character but blanks. -/
def isBlankText (s : String) : Bool := (Text.trim s.toList).isEmpty

/-- Builds settings from a mapping of values. Keys that name no setting are
ignored. -/
def construct (values : Entries) : Except Fault Settings :=
  match checkValues values with
  | .error problems => .error (.invalid problems)
  | .ok s =>
    if isBlankText s.serviceScript then .error (.blank .serviceScript)
    else if isBlankText s.adminCommand then .error (.blank .adminCommand)
    else .ok s

/-! ## Layers -/

/-- The settings that are texts and read from the environment as they stand. -/
def textSettings : List Setting := [.serviceScript, .adminCommand, .launcher, .sshUser, .sshKey]

/-- The settings that are integers. -/
def integerSettings : List Setting := [.workersPerHost, .sshPort]

/-- The settings that are floating-point numbers. -/
def numberSettings : List Setting :=
  [.connectTimeout, .commandTimeout, .adminTimeout, .adminGrace, .workerGrace]

/-- The entries that the variables of some settings give, each read by `read`. -/
def entriesOf (env : Environment) (read : String → Option Json) (settings : List Setting) :
    Entries :=
  settings.filterMap fun s => do
    let raw ← env.get? (← s.variableName)
    return (s.key, ← read raw)

/-- The values that the environment gives. -/
def environmentLayer (env : Environment) : Entries :=
  entriesOf env (some ∘ .text) textSettings ++
  entriesOf env (fun raw => if raw.isEmpty then none else some (.text raw)) [.confDir] ++
  entriesOf env (fun raw => (Number.Integer.parse? raw).map .int) integerSettings ++
  entriesOf env (fun raw => (Number.Decimal.parse? raw).map .float) numberSettings

/-- The explicit values that count: all but the nulls. -/
def overrideLayer (overrides : Entries) : Entries :=
  overrides.filter fun kv => match kv.2 with
    | .null => false
    | _ => true

/-- Builds settings from the environment, with explicit values on top. -/
def fromEnvironment (env : Environment) (overrides : Entries) : Except Fault Settings :=
  construct ((environmentLayer env).update (overrideLayer overrides))

end Settings

end ServerFleet
