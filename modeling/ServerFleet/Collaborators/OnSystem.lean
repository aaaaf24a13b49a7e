import ServerFleet.Administration
import ServerFleet.Cluster
import ServerFleet.RemoteShell
import ServerFleet.Topology.Resolution

/-!
# Collaborators built on the system

Control calls carried out by processes on this machine, by command lines on other
hosts, and by the administrative command. Only waiting is left to the world's own
collaborators.

`Cluster.onSystem` builds a cluster with them. The administrative command must be
readable as words; the pool must have a size.
-/

namespace ServerFleet

namespace RemoteOptions

/-- How the settings have other hosts reached. -/
def ofSettings (s : Settings) : RemoteOptions where
  user := s.sshUser
  port := s.sshPort
  keyFile := s.sshKey
  connectTimeout := s.connectTimeout
  commandTimeout := s.commandTimeout

end RemoteOptions

namespace Collaborators

variable {σ : Type}

/-- Collaborators built on the system, in an environment. -/
def onSystem (w : World σ) (env : Environment) (settings : Settings) (a : Administration)
    (reenter : Transition → Act (Session σ) Unit) : Collaborators σ where
  runLocal argv additions limit := do
    let _ ← Session.inWorld (LocalProcess.run w env argv additions limit)
    return ()
  runRemote host line := do
    let _ ← Session.inWorld (RemoteShell.run w ((env.get? "HOME").getD "")
      (RemoteOptions.ofSettings settings) host line)
    return ()
  admin request := Session.inWorld (a.request w request)
  purge roles := Session.inWorld (a.purge w roles)
  sleep seconds := Session.call w reenter (.sleep seconds)

end Collaborators

/-- The administrative command that settings name. -/
def Administration.ofSettings (env : Environment) (s : Settings) :
    Except Failure Administration :=
  (fun base => ⟨base, env, some s.adminTimeout⟩) <$> Dispatch.wordsOf s.adminCommand

namespace Cluster

variable {σ : Type}

/-- A cluster whose collaborators the world plays. -/
def direct (w : World σ) (settings : Settings) (topology : Topology) (hasFactory : Bool) :
    Except Failure (Cluster σ) := do
  let _ ← Dispatch.poolSize settings none
  return ⟨settings, topology, w, Collaborators.direct w, hasFactory⟩

/-- A cluster whose collaborators are built on the system. -/
def onSystem (w : World σ) (env : Environment) (settings : Settings) (topology : Topology)
    (hasFactory : Bool) : Except Failure (Cluster σ) := do
  let _ ← Dispatch.poolSize settings none
  let a ← Administration.ofSettings env settings
  return ⟨settings, topology, w, Collaborators.onSystem w env settings a, hasFactory⟩

end Cluster

end ServerFleet
