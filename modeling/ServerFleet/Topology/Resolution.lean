import ServerFleet.Act
import ServerFleet.Store
import ServerFleet.Topology

/-!
# Resolving a topology

The topology is read from the hosts files of a store. The workers must be
listed, under the present name of their file. The coordinators may be listed
under the former name of theirs, which is warned of. The monitor is the first
host of its file. Tracers and garbage collectors are those of their files, even
if these are empty.

The first coordinator stands in for a monitor that is not named, and for tracers
or garbage collectors that have no file. Those inferences are pending: resolving
writes nothing, and `applyPending` writes the files that are still missing.

* `resolve`: the topology, what is pending and the warnings;
* `load`: a topology with its warnings logged and what is pending written;
* `createDefaults`: hosts files that give every role to one host.
-/

namespace ServerFleet

/-- A hosts file that was inferred and is not written yet. -/
structure PendingWrite where
  role : Role
  file : String
  hosts : List String
  deriving DecidableEq

/-- What resolving a store gives. -/
structure Resolution where
  topology : Topology
  pending : List PendingWrite
  warnings : List String
  deriving DecidableEq

namespace Resolution

variable {σ : Type} (store : Store σ)

/-- The hosts of a file. -/
def readHosts (s : σ) (file : String) : Except Failure (List String) :=
  parseHosts <$> store.read s file

def problem {α : Type} (p : ConfigurationProblem) : Except Failure α := .error (.configuration p)

/-- Whether a role's hosts are listed under the former name of its file. -/
def hasLegacy (s : σ) (role : Role) : Except Failure Bool :=
  match role.legacyFile? with
  | some file => store.has s file
  | none => .ok false

def resolveWorkers (s : σ) : Except Failure (List String) := do
  if ← hasLegacy store s .worker then
    problem (.legacyWorkers (Role.worker.legacyFile?.getD ""))
  else if ← store.has s Role.worker.hostsFile then
    match ← readHosts store s Role.worker.hostsFile with
    | [] => problem .emptyWorkers
    | hosts => return hosts
  else problem .missingWorkers

/-- The warning that a file has a former name. -/
def deprecation (legacy current : String) : String :=
  "Use of '" ++ legacy ++ "' is deprecated; use '" ++ current ++ "' instead."

/-- The coordinators, and the warnings about their file. -/
def resolveCoordinators (s : σ) : Except Failure (List String × List String) := do
  let current := Role.coordinator.hostsFile
  if ← store.has s current then
    return (← readHosts store s current, [])
  else if ← hasLegacy store s .coordinator then
    let legacy := Role.coordinator.legacyFile?.getD ""
    return (← readHosts store s legacy, [deprecation legacy current])
  else return ([], [])

/-- The host that stands in for a role, or the problem that there is none. -/
def standIn (role : Role) : Option String → Except Failure String
  | some host => .ok host
  | none => problem (.missingDefault role)

def resolveMonitor (s : σ) (first : Option String) : Except Failure String := do
  let file := Role.monitor.hostsFile
  if ← store.has s file then
    match ← readHosts store s file with
    | host :: _ => return host
    | [] => standIn .monitor first
  else standIn .monitor first

/-- The hosts of a role that the first coordinator can stand in for, and what
is pending if it does. -/
def resolveInferable (s : σ) (role : Role) (first : Option String) :
    Except Failure (List String × List PendingWrite) := do
  if ← store.has s role.hostsFile then
    return (← readHosts store s role.hostsFile, [])
  else
    let host ← standIn role first
    return ([host], [⟨role, role.hostsFile, [host]⟩])

/-- Reads the topology. The first rule that is violated is the failure. -/
def resolve (s : σ) : Except Failure Resolution := do
  let workers ← resolveWorkers store s
  let (coordinators, warnings) ← resolveCoordinators store s
  let first := coordinators.head?
  let monitor ← resolveMonitor store s first
  let (tracers, pendingTracers) ← resolveInferable store s .tracer first
  let (collectors, pendingCollectors) ← resolveInferable store s .garbageCollector first
  return {
    topology := ⟨workers, coordinators, monitor, tracers, collectors⟩
    pending := pendingTracers ++ pendingCollectors
    warnings := warnings }

/-! ## Writing -/

/-- The store's answer, as an action that leaves it alone. -/
def ask {α : Type} (question : σ → Except Failure α) : Act σ α :=
  Act.consult fun s => (question s, s)

def write (file : String) (lines : List String) : Act σ Unit :=
  Act.consult fun s => store.write s file lines

/-- Writes what is pending, unless its file exists by now. -/
def applyWrite (p : PendingWrite) : Act σ Unit := do
  if ← ask fun s => store.has s p.file then return ()
  Act.log .info ("Defaulting " ++ p.role.name ++ " to " ++ ", ".intercalate p.hosts ++
    " and saving it to '" ++ p.file ++ "'")
  write store p.file p.hosts

/-- Writes all that is pending. -/
def applyPending (r : Resolution) : Act σ Unit := do
  let _ ← Act.each (applyWrite store) r.pending
  return ()

/-- Resolves the topology, logs the warnings and writes what is pending. -/
def load : Act σ Topology := do
  let r ← ask (resolve store)
  let _ ← Act.each (Act.log .warning) r.warnings
  applyPending store r
  return r.topology

/-- The hosts files of every role. -/
def hostsFiles : List String := Role.all.map Role.hostsFile

/-- The former names of hosts files. -/
def legacyFiles : List String := Role.all.filterMap Role.legacyFile?

/-- The files among some that exist, in order. -/
def existing (s : σ) : List String → Except Failure (List String)
  | [] => .ok []
  | file :: files => do
    let here ← store.has s file
    let rest ← existing s files
    return if here then file :: rest else rest

/-- Gives every role to one host, and gives the names of the files written.
Files that exist are in the way unless they are to be overwritten. -/
def createDefaults (host : String) (overwrite : Bool) : Act σ (List String) := do
  let inTheWay ← ask fun s => existing store s hostsFiles
  if !inTheWay.isEmpty && !overwrite then
    Act.fail (.configuration (.existingFiles inTheWay))
  else
    let _ ← Act.each (fun file => write store file [host]) hostsFiles
    return hostsFiles

end Resolution

end ServerFleet
