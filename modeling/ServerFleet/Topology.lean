import ServerFleet.Role

/-!
# The topology of a fleet

Which hosts carry which role. The order of the hosts and their repetitions are
those of the hosts files.
-/

namespace ServerFleet

structure Topology where
  workers : List String
  coordinators : List String
  monitor : String
  tracers : List String
  garbageCollectors : List String
  deriving DecidableEq

namespace Topology

/-- The hosts of a role. -/
def hosts (t : Topology) : Role → List String
  | .worker => t.workers
  | .coordinator => t.coordinators
  | .monitor => [t.monitor]
  | .tracer => t.tracers
  | .garbageCollector => t.garbageCollectors

end Topology

end ServerFleet
