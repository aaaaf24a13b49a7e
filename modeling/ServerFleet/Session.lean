import ServerFleet.Identity

/-!
# Sessions

A session is all that changes while a fleet is controlled: the world, what is
known of this machine's names, the pool, the lifecycle, and the coordination
context.

A collaborator or a callback that is being called may ask for a transition of
the cluster. What is done about it is up to the `reenter` that `react` is given.
-/

namespace ServerFleet

/-- A coordination context that was built and not released. -/
structure OpenContext where
  /-- The number of the build it came from, counted from one. -/
  number : Nat
  shape : ContextShape
  deriving DecidableEq

structure Session (σ : Type) where
  world : σ
  /-- The names by which instances are found to be on this machine. -/
  identity : Identity := {}
  /-- The names by which a sequence looks for its hosts on this machine, if it
  does not go by `identity`. -/
  ownIdentity : Option Identity := none
  poolOpen : Bool := true
  lifecycle : Lifecycle := {}
  context : Option OpenContext := none
  /-- How many contexts were built. -/
  contextsBuilt : Nat := 0

namespace Session

variable {σ α : Type}

/-- An action on the world, in a session. -/
def inWorld (a : Act σ α) : Act (Session σ) α :=
  a.zoom (·.world) fun world s => { s with world := world }

/-- A query of the machine's names, in a session. -/
def asking (a : Act (Vantage σ) α) : Act (Session σ) α :=
  a.zoom (fun s => ⟨s.world, s.identity⟩) fun v s =>
    { s with world := v.world, identity := v.identity }

/-- A query of the names that a sequence goes by. -/
def askingOwn (a : Act (Vantage σ) α) : Act (Session σ) α :=
  a.zoom (fun s => ⟨s.world, s.ownIdentity.getD s.identity⟩) fun v s =>
    match s.ownIdentity with
    | some _ => { s with world := v.world, ownIdentity := some v.identity }
    | none => { s with world := v.world, identity := v.identity }

/-- Changes the lifecycle. -/
def modifyLifecycle (f : Lifecycle → Lifecycle) : Act (Session σ) Unit :=
  Act.modify fun s => { s with lifecycle := f s.lifecycle }

/-- Goes on from an answer of the world, with `reenter` for the transitions that
are asked for on the way. -/
def react (reenter : Transition → Act (Session σ) Unit) : Reaction σ → Act (Session σ) Unit
  | .finish outcome next => do
    Act.modify fun s => { s with world := next }
    Act.ofExcept outcome
  | .reenter transition next resume => do
    Act.modify fun s => { s with world := next }
    let failure ← (fun | .ok _ => none | .error e => some e) <$> (reenter transition).attempt
    Act.record (.reentered transition failure)
    let s ← Act.get
    react reenter (resume failure s.world)
  | .register callback rest => do
    modifyLifecycle (·.register callback)
    react reenter rest

variable (w : World σ) (reenter : Transition → Act (Session σ) Unit)

/-- Calls a collaborator. -/
def call (c : ControlCall) : Act (Session σ) Unit := do
  Act.record (.control c)
  let s ← Act.get
  react reenter (w.control c s.world)

/-- Tells a callback of a change. If it fails, that is logged. -/
def tell (phase : Phase) (transition : String) (callback : Callback) : Act (Session σ) Unit := do
  let s ← Act.get
  Act.record (.callback callback phase transition s.lifecycle.phase)
  match ← (react reenter (w.callback callback phase transition s.world)).attempt with
  | .ok _ => return ()
  | .error _ =>
    Act.log .error ("State callback failed on " ++ transition ++ " -> " ++ phase.name)

/-- Changes the phase, and tells every callback registered so far. -/
def setPhase (phase : Phase) (transition : String) : Act (Session σ) Unit := do
  modifyLifecycle (·.store phase)
  let s ← Act.get
  let _ ← Act.each (tell w reenter phase transition) s.lifecycle.callbacks
  return ()

/-- Claims the right to run a transition. -/
def claim (transition : String) : Act (Session σ) Unit :=
  Act.consult fun s => match s.lifecycle.claim transition with
    | .ok lifecycle => (.ok (), { s with lifecycle := lifecycle })
    | .error refusal => (.error (.refused refusal), s)

/-- Runs an action as a transition: claims it first, and releases it whatever
becomes of the action. -/
def during (transition : String) (a : Act (Session σ) α) : Act (Session σ) α := do
  claim transition
  let r ← a.attempt
  modifyLifecycle (·.release)
  Act.ofExcept r

end Session

end ServerFleet
