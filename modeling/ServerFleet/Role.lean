/-!
# Roles and commands

The server roles of a fleet, the hosts file of each, and the commands that the
service script understands.

* `Role.ofName?_name`: a role is read back from its name;
* `Role.all`, `Role.singletons`: the roles in their fixed orders.
-/

namespace ServerFleet

/-- The categories of server processes. -/
inductive Role where
  | coordinator
  | worker
  | garbageCollector
  | monitor
  | tracer
  deriving DecidableEq

namespace Role

/-- Every role, in the order in which they are listed. -/
def all : List Role := [coordinator, worker, garbageCollector, monitor, tracer]

theorem mem_all (r : Role) : r ∈ all := by cases r <;> decide

/-- The name by which the service script knows the role. -/
def name : Role → String
  | coordinator => "manager"
  | worker => "tserver"
  | garbageCollector => "gc"
  | monitor => "monitor"
  | tracer => "tracer"

theorem name_injective {r s : Role} (h : r.name = s.name) : r = s := by
  revert h; cases r <;> cases s <;> decide

/-- The role with a name. -/
def ofName? (s : String) : Option Role := all.find? (·.name = s)

theorem ofName?_name (r : Role) : ofName? r.name = some r := by cases r <;> decide

/-- The file that lists the role's hosts. -/
def hostsFile : Role → String
  | coordinator => "managers"
  | worker => "tservers"
  | garbageCollector => "gc"
  | monitor => "monitor"
  | tracer => "tracers"

/-- The name the role's hosts file had formerly. -/
def legacyFile? : Role → Option String
  | coordinator => some "masters"
  | worker => some "slaves"
  | _ => none

/-- Whether a host may run several instances of the role. -/
def isMultiInstance : Role → Bool
  | worker => true
  | _ => false

/-- The roles other than the workers, in the order in which they are started,
stopped and killed. -/
def singletons : List Role := [coordinator, garbageCollector, monitor, tracer]

end Role

/-- What the service script is told to do with an instance. -/
inductive Command where
  | start
  | stop
  | kill
  deriving DecidableEq

namespace Command

def all : List Command := [start, stop, kill]

def name : Command → String
  | start => "start"
  | stop => "stop"
  | kill => "kill"

/-- The command with a name. -/
def ofName? (s : String) : Option Command := all.find? (·.name = s)

theorem ofName?_name (c : Command) : ofName? c.name = some c := by cases c <;> decide

theorem name_injective {c d : Command} (h : c.name = d.name) : c = d := by
  revert h; cases c <;> cases d <;> decide

end Command

end ServerFleet
