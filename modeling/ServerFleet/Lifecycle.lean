/-!
# The lifecycle of a cluster

A cluster is stopped, started or terminated, and at most one transition is in
progress at a time. A transition is claimed before it runs and released when it
ends. A claim is refused while another transition is in progress, and for good
once the cluster is terminated.

* `claim_eq_ok_iff`, `claim_eq_error_iff`: when a claim succeeds, and why not;
* `release_inFlight`, `store_phase`: what the other steps do.
-/

namespace ServerFleet

/-- The states of a cluster between transitions. -/
inductive Phase where
  | stopped
  | started
  | terminated
  deriving DecidableEq

namespace Phase

def all : List Phase := [stopped, started, terminated]

def name : Phase → String
  | stopped => "stopped"
  | started => "started"
  | terminated => "terminated"

/-- The phase with a name. -/
def ofName? (s : String) : Option Phase := all.find? (·.name = s)

end Phase

/-- Why a transition cannot be claimed. -/
inductive Refusal where
  /-- The cluster is terminated. -/
  | terminated (transition : String)
  /-- Another transition is in progress. -/
  | busy (transition : String) (phase : Phase) (inFlight : String)
  deriving DecidableEq

namespace Refusal

def message : Refusal → String
  | terminated transition => "Cannot " ++ transition ++ " a cluster that is terminated."
  | busy transition _ inFlight =>
    "Cannot " ++ transition ++ " while " ++ inFlight ++ " is in progress."

/-- The transition that was refused. -/
def transition : Refusal → String
  | terminated t => t
  | busy t _ _ => t

/-- The phase in which it was refused. -/
def phase : Refusal → Phase
  | terminated _ => .terminated
  | busy _ p _ => p

/-- The transition that was in its way. -/
def inFlight? : Refusal → Option String
  | terminated _ => none
  | busy _ _ t => some t

end Refusal

/-- Something that is told of changes: the name it goes by, and a key that tells
callbacks of one name apart. -/
structure Callback where
  id : String
  key : Nat := 0
  deriving DecidableEq

/-- The phase of a cluster, the transition in progress, and the callbacks that
are told of changes, first registered first. -/
structure Lifecycle where
  phase : Phase := .stopped
  inFlight : Option String := none
  callbacks : List Callback := []
  deriving DecidableEq

namespace Lifecycle

/-- Claims the right to run a transition. -/
def claim (l : Lifecycle) (transition : String) : Except Refusal Lifecycle :=
  if l.phase = .terminated then .error (.terminated transition)
  else match l.inFlight with
    | some other => .error (.busy transition l.phase other)
    | none => .ok { l with inFlight := some transition }

/-- Ends the transition in progress. -/
def release (l : Lifecycle) : Lifecycle := { l with inFlight := none }

/-- Changes the phase. -/
def store (l : Lifecycle) (phase : Phase) : Lifecycle := { l with phase := phase }

/-- Registers a callback. -/
def register (l : Lifecycle) (callback : Callback) : Lifecycle :=
  { l with callbacks := l.callbacks ++ [callback] }

theorem claim_eq_ok_iff {l l' : Lifecycle} {t : String} :
    l.claim t = .ok l' ↔
      l.phase ≠ .terminated ∧ l.inFlight = none ∧ l' = { l with inFlight := some t } := by
  unfold claim
  split
  · simp [*]
  · split <;> simp_all [eq_comm]

theorem claim_eq_error_iff {l : Lifecycle} {t : String} {r : Refusal} :
    l.claim t = .error r ↔
      (l.phase = .terminated ∧ r = .terminated t) ∨
      (l.phase ≠ .terminated ∧ ∃ other, l.inFlight = some other ∧ r = .busy t l.phase other) := by
  unfold claim
  split
  · simp [*, eq_comm]
  · split <;> simp_all [eq_comm]

@[simp] theorem release_inFlight (l : Lifecycle) : l.release.inFlight = none := rfl
@[simp] theorem release_phase (l : Lifecycle) : l.release.phase = l.phase := rfl
@[simp] theorem release_callbacks (l : Lifecycle) : l.release.callbacks = l.callbacks := rfl
@[simp] theorem store_phase (l : Lifecycle) (p : Phase) : (l.store p).phase = p := rfl
@[simp] theorem store_inFlight (l : Lifecycle) (p : Phase) : (l.store p).inFlight = l.inFlight := rfl
@[simp] theorem store_callbacks (l : Lifecycle) (p : Phase) :
    (l.store p).callbacks = l.callbacks := rfl

end Lifecycle

end ServerFleet
