import ServerFleet.Collaborators
import ServerFleet.Report

/-!
# Dispatch

Control calls for instances, on this machine or over a remote shell. A call is
handed to the pool (`submit`), and calls are waited for (`join`), which gives
their outcomes in the order in which they were handed over. A call that fails is
logged and told in its outcome, and the others go on.

* `run`: a command for every instance of a role on some hosts;
* `startWorkers`: workers started in batches of hosts, each batch waited for
  before the next;
* `commandLine`: the command line of an instance's call on another host.
-/

namespace ServerFleet

namespace Dispatch

/-- How many hosts' workers are started before they are waited for. -/
def batchSize : Nat := 72

/-- The size of the pool for some settings: the one asked for unless it is zero. -/
def poolSize (settings : Settings) (requested : Option Int) : Except Failure Int :=
  let size := match requested with
    | some n => if n = 0 then (batchSize * settings.workersPerHost : Nat) else n
    | none => (batchSize * settings.workersPerHost : Nat)
  if size ≤ 0 then .error .emptyPool else .ok size

/-- The instances of a role on a host. -/
def instances (settings : Settings) (role : Role) (host : String) : List Instance :=
  Instance.onHost role host settings.workersPerHost

/-- The words of a command line, or the failure to read it. -/
def wordsOf (line : String) : Except Failure (List String) :=
  match Text.Shell.split line with
  | .ok words => .ok words
  | .error fault => .error (.commandLine fault)

/-- The program and the arguments that carry out a command for an instance. -/
def serviceWords (settings : Settings) (target : Instance) (command : Command) :
    Except Failure (List String) := do
  let launcher ← wordsOf settings.launcher
  let script ← wordsOf settings.serviceScript
  return launcher ++ script ++ [target.role.name, command.name]

theorem serviceWords_eq {settings : Settings} {launcher script : List String}
    (hl : wordsOf settings.launcher = .ok launcher)
    (hs : wordsOf settings.serviceScript = .ok script) (target : Instance) (command : Command) :
    serviceWords settings target command =
      .ok (launcher ++ script ++ [target.role.name, command.name]) := by
  rw [serviceWords, hl, hs]
  rfl

/-- There are words for a call if those of the settings can be read. -/
theorem serviceWords_eq_ok_iff {settings : Settings} {target : Instance} {command : Command}
    {words : List String} : serviceWords settings target command = .ok words ↔
      ∃ launcher script, wordsOf settings.launcher = .ok launcher ∧
        wordsOf settings.serviceScript = .ok script ∧
        launcher ++ script ++ [target.role.name, command.name] = words := by
  constructor
  · intro h
    cases hl : wordsOf settings.launcher with
    | error e =>
      rw [serviceWords, hl] at h
      cases h
    | ok launcher =>
      cases hs : wordsOf settings.serviceScript with
      | error e =>
        rw [serviceWords, hl, hs] at h
        cases h
      | ok script =>
        rw [serviceWords_eq hl hs] at h
        exact ⟨launcher, script, rfl, rfl, Except.ok.inj h⟩
  · rintro ⟨launcher, script, hl, hs, rfl⟩
    exact serviceWords_eq hl hs target command

/-- The variable that the program is run with. -/
def exported (settings : Settings) (target : Instance) : Environment :=
  [(settings.instanceVariable, target.exported)]

/-- The command line that does the same on another host. -/
def commandLine (settings : Settings) (target : Instance) (command : Command) :
    Except Failure String := do
  let words ← serviceWords settings target command
  return settings.instanceVariable ++ "=" ++ Text.Shell.quote target.exported ++ " " ++
    Text.Shell.join words

variable {σ : Type} (settings : Settings) (w : World σ) (c : Collaborators σ)

/-- The control call for an instance, where it runs. -/
def control (isLocal : Bool) (target : Instance) (command : Command) : Act (Session σ) Unit :=
  if isLocal then do
    let words ← Act.ofExcept (serviceWords settings target command)
    c.runLocal words (exported settings target) settings.commandTimeout
  else do
    let line ← Act.ofExcept (commandLine settings target command)
    c.runRemote target.host line

/-- Carries out a command for an instance. -/
def carryOut (target : Instance) (command : Command) : Act (Session σ) Outcome := do
  let isLocal ← Session.asking (Identity.isLocal w (some target.host))
  match ← (control settings c isLocal target command).attempt with
  | .ok _ =>
    let place := if isLocal then "local" else "remote"
    Act.log .info (command.name ++ " " ++ target.label ++ " (" ++ place ++ ")")
    return ⟨target, command, isLocal, none⟩
  | .error e =>
    let failure := Failure.dispatch target command isLocal e
    Act.log .warning failure.message
    return ⟨target, command, isLocal, some failure⟩

/-- Hands a call to the pool. -/
def submit (command : Command) (target : Instance) : Act (Session σ) (Instance × Command) := do
  if (← Act.get).poolOpen then
    Act.record (.pool (.submit target command))
    return (target, command)
  else Act.fail .poolClosed

/-- Waits for calls, and gives their outcomes. -/
def join (calls : List (Instance × Command)) : Act (Session σ) (List Outcome) := do
  let outcomes ← Act.each (fun call => carryOut settings w c call.1 call.2) calls
  Act.record (.pool (.join calls.length))
  return outcomes

/-- Carries out a command for every instance of a role on some hosts. -/
def run (role : Role) (hosts : List String) (command : Command) :
    Act (Session σ) (List Outcome) := do
  let calls ← Act.each (submit command) (hosts.flatMap (instances settings role))
  join settings w c calls

/-- What came of a batched start. -/
structure BatchReport where
  outcomes : List Outcome
  barriers : Nat

/-- A list cut into batches of `size`, where the first one holds `batch` already
and has room for `room`. -/
def batchesFrom {α : Type} (size room : Nat) (batch : List α) : List α → List (List α)
  | [] => if batch.isEmpty then [] else [batch]
  | x :: xs =>
    if room ≤ 1 then (batch ++ [x]) :: batchesFrom size size [] xs
    else batchesFrom size (room - 1) (batch ++ [x]) xs

/-- A list cut into batches of `size` and a last one that may be smaller. -/
def batches {α : Type} (size : Nat) (xs : List α) : List (List α) := batchesFrom size size [] xs

/-- Starts the workers of some hosts, a batch of hosts at a time. -/
def startWorkers (hosts : List String) : Act (Session σ) BatchReport := do
  let parts ← Act.each (fun batch => run settings w c .worker batch .start)
    (batches batchSize hosts)
  return ⟨parts.flatten, parts.length⟩

/-- Closes the pool. -/
def close : Act (Session σ) Unit := Act.modify fun s => { s with poolOpen := false }

end Dispatch

end ServerFleet
