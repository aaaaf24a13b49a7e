import ServerFleet.LocalProcess

/-!
# Administration over a command

Administrative requests and purges are carried out by a command on this machine.
An execution failure of the command becomes the failure of the request or of the
purge, with the context of the failure behind it. Any other failure is passed on
as it is.
-/

namespace ServerFleet

namespace AdminRequest

/-- The words that ask the command for a request. -/
def words : AdminRequest → List String
  | stopAll => ["stop-all"]
  | setGoal goal => ["set-goal-state", goal]
  | stopWorker host => ["stop-server", host]

end AdminRequest

/-- The command, and how it is run. -/
structure Administration where
  /-- The words the command begins with. -/
  base : List String
  environment : Environment
  limit : Option Float

namespace Administration

variable {σ : Type} (w : World σ) (a : Administration)

/-- Runs the command with some words, and wraps an execution failure. -/
def call (argv : List String) (wrap : Failure → Failure) : Act σ Unit := do
  match ← (LocalProcess.run w a.environment argv [] a.limit).attempt with
  | .ok _ => return ()
  | .error e => Act.fail (if e.kind = .reported .execution then wrap e else e)

/-- Makes a request. -/
def request (r : AdminRequest) : Act σ Unit :=
  let argv := a.base ++ r.words
  call w a argv fun e => .administrative r.words argv e

/-- The word by which the registrations of a role are purged, for the roles that
have any. -/
def purgeFlag? : Role → Option String
  | .coordinator => some "--managers"
  | .worker => some "--tservers"
  | .tracer => some "--tracers"
  | _ => none

/-- The flags of some roles, each once and in a fixed order. -/
def purgeFlags (roles : List Role) : List String :=
  [Role.coordinator, .worker, .tracer].filterMap fun role =>
    if roles.contains role then purgeFlag? role else none

/-- The command that purges the registrations of some roles. -/
def purgeWords (roles : List Role) : Except Failure (List String) :=
  match purgeFlags roles with
  | [] => .error (.nothingToPurge roles)
  | flags => .ok (a.base ++ "zap" :: flags)

/-- Purges the registrations of some roles. -/
def purge (roles : List Role) : Act σ Unit := do
  let argv ← Act.ofExcept (purgeWords a roles)
  call w a argv fun e => .cleanup roles e

end Administration

end ServerFleet
