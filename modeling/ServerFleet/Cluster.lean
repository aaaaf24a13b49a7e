import ServerFleet.Sequence

/-!
# Clusters

A cluster is a fleet with a lifecycle and a coordination context. Starting,
stopping and terminating it are transitions: each runs a sequence while no other
transition can be claimed, and changes the phase when the sequence is done.

The context is built when it is first asked for. Terminating releases it.

A transition that a collaborator or a callback asks for while another one is
running is refused, and nothing of it runs. Only an operation that runs outside
any transition can be interrupted by one.

* `interrupt_of_inFlight`: refusing a transition outright is what carrying it out
  comes to while another one runs.
-/

namespace ServerFleet

/-- What a cluster is made of. `staff` gives the collaborators, which need to
know what to do about the transitions that they ask for. -/
structure Cluster (σ : Type) where
  settings : Settings
  topology : Topology
  world : World σ
  staff : (Transition → Act (Session σ) Unit) → Collaborators σ
  /-- Whether there is a context factory. -/
  hasFactory : Bool := false

namespace Cluster

variable {σ : Type} (k : Cluster σ)

/-- The crew of a sequence during which transitions are dealt with by `reenter`. -/
def crew (reenter : Transition → Act (Session σ) Unit) : Crew σ :=
  ⟨k.settings, k.topology, k.world, k.staff reenter⟩

/-- The coordination context: the one that is open, or a new one. -/
def serverContext : Act (Session σ) OpenContext := do
  if k.hasFactory then
    let s ← Act.get
    match s.context with
    | some context => return context
    | none =>
      let (build, world) := k.world.buildContext s.world
      Act.modify fun s => { s with world := world }
      Act.record (.contextBuild build.kind)
      let shape ← Act.ofExcept build.outcome
      let context := ⟨s.contextsBuilt + 1, shape⟩
      Act.modify fun s =>
        { s with context := some context, contextsBuilt := s.contextsBuilt + 1 }
      return context
  else Act.fail .noContextFactory

/-- Closes the open context, if there is one that can be closed, and forgets it. -/
def releaseContext : Act (Session σ) Unit := do
  match (← Act.get).context with
  | none => return ()
  | some context =>
    if context.shape.closable then
      Act.log .debug "Closing coordination context"
      Act.record (.contextClose context.number)
      Session.inWorld (Act.consult (k.world.closeContext context.number))
    Act.modify fun s => { s with context := none }

/-- What is done about a transition that is asked for while another one runs: it
is claimed, which is refused. -/
def refuse (t : Transition) : Act (Session σ) Unit := Session.claim t.name

/-- What a transition does once it is claimed, with the report if it has one. -/
def body : Transition → Act (Session σ) (Option Report)
  | .start => do
    let _ ← Sequence.setGoal (k.crew refuse) Sequence.normalGoal
    let report ← Sequence.startAll (k.crew refuse)
    Session.setPhase k.world refuse .started Transition.start.name
    return some report
  | .stop => do
    let report ← Sequence.stopAll (k.crew refuse)
    Session.setPhase k.world refuse .stopped Transition.stop.name
    return some report
  | .terminate => do
    if (← Act.get).lifecycle.phase = .started then
      let _ ← Sequence.stopAll (k.crew refuse)
      Session.setPhase k.world refuse .stopped Transition.terminate.name
    releaseContext k
    Dispatch.close
    Session.setPhase k.world refuse .terminated Transition.terminate.name
    return none

/-- Carries out a transition. -/
def perform (t : Transition) : Act (Session σ) (Option Report) :=
  Session.during t.name (body k t)

/-- What is done about a transition that is asked for while none runs. -/
def interrupt (t : Transition) : Act (Session σ) Unit := do
  let _ ← perform k t
  return ()

/-- While a transition runs, a transition that is carried out comes to what
`refuse` does: it is refused, and nothing of it runs. -/
theorem interrupt_of_inFlight {s : Session σ} {other : String}
    (h : s.lifecycle.inFlight = some other) (t : Transition) :
    (interrupt k t).run s = (refuse t).run s := by
  have hc : ∃ r, s.lifecycle.claim t.name = .error r := by
    unfold Lifecycle.claim
    split
    · exact ⟨_, rfl⟩
    · rw [h]; exact ⟨_, rfl⟩
  obtain ⟨r, hr⟩ := hc
  have hrun : (Session.claim (σ := σ) t.name).run s = ⟨.error (.refused r), s, []⟩ := by
    simp [Session.claim, hr]
  rw [refuse, hrun]
  exact Act.run_bind_of_error (Act.run_bind_of_error hrun)

/-- Carries out an operation outside any transition. -/
def carryOut (o : Operation) : Act (Session σ) Report := Sequence.carryOut (k.crew (interrupt k)) o

end Cluster

end ServerFleet
