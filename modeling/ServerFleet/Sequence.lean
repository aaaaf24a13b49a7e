import ServerFleet.Dispatch
import ServerFleet.Topology

/-!
# Sequences over a fleet

Operations on the whole fleet, or on the part of it that is on this machine.
Stopping asks for a coordinated stop first and goes on to force in any case:
every role is told to stop and then killed, the workers after a wait, and their
registrations are purged.

A call that fails, an administrative request that fails and a purge that fails
are logged and told in the report. They change nothing about what is done after
them.
-/

namespace ServerFleet

/-- What a sequence works with. -/
structure Crew (σ : Type) where
  settings : Settings
  topology : Topology
  world : World σ
  collaborators : Collaborators σ

/-- The operations on a fleet. -/
inductive Operation where
  | startAll
  | startWorkers
  | stopAll
  | stopWorkers
  | killAll
  | restart
  | startHere
  | stopHere
  deriving DecidableEq

/-- The name under which an operation is reported. -/
def Operation.name : Operation → String
  | startAll => "start"
  | startWorkers => "start-workers"
  | stopAll => "stop"
  | stopWorkers => "stop-workers"
  | killAll => "kill"
  | restart => "restart"
  | startHere => "start-here"
  | stopHere => "stop-here"

namespace Sequence

/-- The goal that a fleet is started with. -/
def normalGoal : String := "NORMAL"

/-- The commands that stop an instance for certain. -/
def escalation : List Command := [.stop, .kill]

/-- The order in which the roles on this machine are stopped. -/
def localStopOrder : List Role := [.worker, .garbageCollector, .coordinator, .monitor, .tracer]

/-- The order in which the roles on this machine are started. -/
def localStartOrder : List Role := .worker :: Role.singletons

variable {σ : Type} (crew : Crew σ)

/-- Carries out a command for a role on some hosts. -/
def command (role : Role) (hosts : List String) (c : Command) : Act (Session σ) (List Outcome) :=
  Dispatch.run crew.settings crew.world crew.collaborators role hosts c

/-- Carries out a command for some roles in turn, each on all its hosts. -/
def sweep (roles : List Role) (c : Command) : Act (Session σ) (List Outcome) :=
  List.flatten <$> Act.each (fun role => command crew role (crew.topology.hosts role) c) roles

/-- Runs an action, and tells whether it succeeded. A failure of the kind given
is handed to `onFailure` and goes no further. -/
def succeeds (kind : ReportKind) (a : Act (Session σ) Unit)
    (onFailure : Failure → Act (Session σ) Unit) : Act (Session σ) Bool := do
  match ← a.attempt with
  | .ok _ => return true
  | .error e =>
    if e.kind = .reported kind then
      onFailure e
      return false
    else Act.fail e

/-- Purges the registrations of some roles, and tells whether that succeeded. -/
def purge (roles : List Role) : Act (Session σ) Bool := do
  Act.log .info ("Cleaning " ++ ", ".intercalate (roles.map Role.name) ++
    " entries from the coordination service")
  succeeds .cleanup (crew.collaborators.purge roles) fun e =>
    Act.log .warning (e.message ++ " (will be retried by the next stop or kill)")

/-- Asks for a goal state, and tells whether that succeeded. -/
def setGoal (goal : String) : Act (Session σ) Bool :=
  succeeds .administrative (crew.collaborators.admin (.setGoal goal)) fun e =>
    Act.log .warning ("Could not set goal state " ++ goal ++ ": " ++ e.message)

/-- The first host among some that is this machine. -/
def firstLocalOf : List String → Act (Session σ) (Option String)
  | [] => return none
  | host :: hosts => do
    if ← Session.askingOwn (Identity.isLocal crew.world (some host)) then return some host
    firstLocalOf hosts

/-- The first host of a role that is this machine. -/
def firstLocal (role : Role) : Act (Session σ) (Option String) :=
  firstLocalOf crew (crew.topology.hosts role)

/-- Carries out a command for a role on this machine, if it has the role. -/
def commandHere (c : Command) (role : Role) : Act (Session σ) (List Outcome) := do
  match ← firstLocal crew role with
  | some host => command crew role [host] c
  | none => return []

/-- Starts the workers. -/
def startWorkers : Act (Session σ) Report := do
  let hosts := crew.topology.workers
  Act.log .info ("Starting " ++ toString hosts.length ++ " worker host(s)")
  let batch ← Dispatch.startWorkers crew.settings crew.world crew.collaborators hosts
  return {
    operation := Operation.startWorkers.name
    outcomes := batch.outcomes
    barriers := batch.barriers }

/-- Starts the workers, then every other role in turn. -/
def startAll : Act (Session σ) Report := do
  let workers ← startWorkers crew
  let outcomes ← sweep crew Role.singletons .start
  let report := ({ operation := Operation.startAll.name } : Report).merge workers
  return { report with outcomes := report.outcomes ++ outcomes }

/-- Stops the workers, waits, kills them and purges their registrations. -/
def stopWorkers : Act (Session σ) Report := do
  Act.log .info "Stopping unresponsive workers (if any)"
  let stopped ← command crew .worker crew.topology.workers .stop
  crew.collaborators.sleep crew.settings.workerGrace
  let killed ← command crew .worker crew.topology.workers .kill
  let purged ← purge crew [.worker]
  return {
    operation := Operation.stopWorkers.name
    outcomes := stopped ++ killed
    purgeOk := some purged }

/-- Asks for a coordinated stop, and tells whether that succeeded. -/
def requestStop : Act (Session σ) Bool := do
  let ok ← succeeds .administrative (crew.collaborators.admin .stopAll) fun e =>
    Act.log .warning ("Graceful stop request failed, escalating: " ++ e.message)
  if ok then Act.log .info "Requested coordinated stop; waiting for it to take effect"
  return ok

/-- Asks for a coordinated stop and waits, stops and kills the roles other than
the workers, stops the workers, and purges all registrations. -/
def stopAll : Act (Session σ) Report := do
  let requested ← requestStop crew
  crew.collaborators.sleep crew.settings.adminGrace
  let swept ← Act.each (sweep crew Role.singletons) escalation
  let workers ← stopWorkers crew
  let purged ← purge crew [.coordinator, .worker, .tracer]
  let before : Report := {
    operation := Operation.stopAll.name
    outcomes := swept.flatten
    adminOk := some requested }
  let report := before.merge workers
  return { report with purgeOk := allOk report.purgeOk (some purged) }

/-- Kills every role at once. -/
def killAll : Act (Session σ) Report := do
  let outcomes ← sweep crew (Role.singletons ++ [.worker]) .kill
  let purged ← purge crew [.coordinator, .worker]
  return {
    operation := Operation.killAll.name
    outcomes := outcomes
    purgeOk := some purged }

/-- Stops the fleet and starts it again. -/
def restart : Act (Session σ) Report := do
  let stopped ← stopAll crew
  let started ← startAll crew
  return (({ operation := Operation.restart.name } : Report).merge stopped).merge started

/-- Starts the roles of this machine. -/
def startHere : Act (Session σ) Report := do
  let outcomes ← Act.each (commandHere crew .start) localStartOrder
  return { operation := Operation.startHere.name, outcomes := outcomes.flatten }

/-- Asks for the worker on this machine to be stopped, if there is one, and
tells whether that succeeded. -/
def requestStopHere : Act (Session σ) (Option Bool) := do
  match ← firstLocal crew .worker with
  | none => return none
  | some host =>
    some <$> succeeds .administrative (crew.collaborators.admin (.stopWorker host)) fun e =>
      Act.log .warning
        ("Graceful stop of local worker " ++ host ++ " failed: " ++ e.message)

/-- Stops the roles of this machine, then kills them. -/
def stopHere : Act (Session σ) Report := do
  let requested ← requestStopHere crew
  let outcomes ← Act.each
    (fun c => List.flatten <$> Act.each (commandHere crew c) localStopOrder) escalation
  return {
    operation := Operation.stopHere.name
    outcomes := outcomes.flatten
    adminOk := requested }

/-- Carries out an operation. -/
def carryOut : Operation → Act (Session σ) Report
  | .startAll => startAll crew
  | .startWorkers => startWorkers crew
  | .stopAll => stopAll crew
  | .stopWorkers => stopWorkers crew
  | .killAll => killAll crew
  | .restart => restart crew
  | .startHere => startHere crew
  | .stopHere => stopHere crew

end Sequence

end ServerFleet
