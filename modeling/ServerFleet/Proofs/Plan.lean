import ServerFleet.Proofs.Ledger
import ServerFleet.Proofs.Locality
import ServerFleet.Sequence

/-!
# The plan of an operation

The steps that an operation takes, in order. They follow from the operation, the
topology, the number of workers a host runs, the two waits, and what this
machine's identities say of the hosts. Nothing that a step comes to has a part
in them.
-/

namespace ServerFleet

/-- What the steps of an operation follow from, apart from identities. -/
structure Scope where
  topology : Topology
  workersPerHost : Nat
  adminGrace : Float
  workerGrace : Float

/-- The scope of a crew. -/
def Crew.scope {σ : Type} (crew : Crew σ) : Scope where
  topology := crew.topology
  workersPerHost := crew.settings.workersPerHost
  adminGrace := crew.settings.adminGrace
  workerGrace := crew.settings.workerGrace

namespace Plan

/-- The instances of a role on a host: those of a worker are numbered from one on,
and every other role has one. -/
def instances (workersPerHost : Nat) : Role → String → List Instance
  | .worker, host => (List.range workersPerHost).map fun (k : Nat) =>
      ⟨.worker, host, (k : Int) + 1, decide (1 < workersPerHost)⟩
  | role, host => [⟨role, host, 1, false⟩]

variable (p : Scope) (v : Views)

/-- A command for every instance of a role on some hosts. -/
def tell (c : Command) (role : Role) (hosts : List String) : List Step :=
  hosts.flatMap fun host => (instances p.workersPerHost role host).map fun target =>
    .dispatch target c (v.dispatcher.knows host)

/-- A command for some roles in turn, each on all its hosts. -/
def tellAll (c : Command) (roles : List Role) : List Step :=
  roles.flatMap fun role => tell p v c role (p.topology.hosts role)

/-- The first host of a role that is this machine. -/
def localHost? (role : Role) : Option String := (p.topology.hosts role).find? v.sequence.knows

/-- A command for a role on a host, if there is one. -/
def tellAt (c : Command) (role : Role) : Option String → List Step
  | some host => tell p v c role [host]
  | none => []

/-- A command for a role on this machine. -/
def tellHere (c : Command) (role : Role) : List Step := tellAt p v c role (localHost? p v role)

/-- The roles other than the workers. -/
def singletons : List Role := [.coordinator, .garbageCollector, .monitor, .tracer]

def startWorkers : List Step := tell p v .start .worker p.topology.workers

def startAll : List Step := startWorkers p v ++ tellAll p v .start singletons

def stopWorkers : List Step :=
  tell p v .stop .worker p.topology.workers ++ .wait p.workerGrace ::
    (tell p v .kill .worker p.topology.workers ++ [.purge [.worker]])

def stopAll : List Step :=
  [.request .stopAll, .wait p.adminGrace] ++ tellAll p v .stop singletons ++
    tellAll p v .kill singletons ++ stopWorkers p v ++
    [.purge [.coordinator, .worker, .tracer]]

def killAll : List Step :=
  tellAll p v .kill (singletons ++ [.worker]) ++ [.purge [.coordinator, .worker]]

def restart : List Step := stopAll p v ++ startAll p v

def startHere : List Step := (.worker :: singletons).flatMap (tellHere p v .start)

/-- The roles in the order in which those on this machine are stopped. -/
def localStops : List Role := [.worker, .garbageCollector, .coordinator, .monitor, .tracer]

def stopHere : List Step :=
  ((localHost? p v .worker).map fun host => Step.request (.stopWorker host)).toList ++
    localStops.flatMap (tellHere p v .stop) ++ localStops.flatMap (tellHere p v .kill)

/-- The steps of an operation. -/
def of : Operation → List Step
  | .startAll => startAll p v
  | .startWorkers => startWorkers p v
  | .stopAll => stopAll p v
  | .stopWorkers => stopWorkers p v
  | .killAll => killAll p v
  | .restart => restart p v
  | .startHere => startHere p v
  | .stopHere => stopHere p v

/-- How often an operation waits for launches: once a batch of worker hosts, if it
starts all the workers. -/
def barriers (t : Topology) : Operation → Int
  | .startAll | .startWorkers | .restart =>
    (Dispatch.batches Dispatch.batchSize t.workers).length
  | _ => 0

theorem onHost_eq_instances (role : Role) (host : String) (count : Nat) :
    Instance.onHost role host count = instances count role host := by
  cases role <;> rfl

theorem host_of_mem_instances {role : Role} {host : String} {count : Nat} {target : Instance}
    (h : target ∈ instances count role host) : target.host = host := by
  rw [← onHost_eq_instances] at h
  exact (Instance.of_mem_onHost h).2.1

theorem role_of_mem_instances {role : Role} {host : String} {count : Nat} {target : Instance}
    (h : target ∈ instances count role host) : target.role = role := by
  rw [← onHost_eq_instances] at h
  exact (Instance.of_mem_onHost h).1

/-- A host has an instance of every role, if worker hosts run any workers. -/
theorem exists_mem_instances {count : Nat} (h : 1 ≤ count) (role : Role) (host : String) :
    ∃ target, target ∈ instances count role host := by
  cases role with
  | worker => exact ⟨_, List.mem_map.mpr ⟨0, List.mem_range.mpr h, rfl⟩⟩
  | _ => exact ⟨_, List.mem_singleton.mpr rfl⟩

/-- A dispatch of a plan goes where the dispatcher's identity says. -/
theorem mem_tell {c c' : Command} {role : Role} {hosts : List String} {target : Instance}
    {isLocal : Bool} (h : .dispatch target c' isLocal ∈ tell p v c role hosts) :
    c' = c ∧ isLocal = v.dispatcher.knows target.host ∧
      ∃ host ∈ hosts, target ∈ instances p.workersPerHost role host := by
  obtain ⟨host, hh, ht⟩ := List.mem_flatMap.mp h
  obtain ⟨target', hm, he⟩ := List.mem_map.mp ht
  obtain ⟨rfl, rfl, rfl⟩ : target' = target ∧ c = c' ∧ v.dispatcher.knows host = isLocal := by
    simpa using he
  exact ⟨rfl, by rw [host_of_mem_instances hm], host, hh, hm⟩

end Plan

end ServerFleet
