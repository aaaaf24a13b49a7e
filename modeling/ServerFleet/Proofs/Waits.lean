import ServerFleet.Proofs.Bounds
import ServerFleet.Proofs.Orphans
import ServerFleet.Proofs.Verdicts

/-!
# Waits

Only stopping waits: after the request to stop everything, and between stopping the
workers and killing them. An operation does not depend on how its collaborators wait
except for the two graces (`Sequence.carryOut_waiting`), which are not negative in settings
within their bounds.

An action is `Patient` if it waits for no negative duration, and for none that is not a
number. With settings within their bounds operations are, if all that their collaborators
do besides waiting is (`Sequence.carryOut_patient`), and so is all that a cluster does
(`Cluster.perform_patient`, `Cluster.serveAll_patient`): a transition that interrupts an
operation waits for the same graces.
-/

namespace ServerFleet

open Act (Agree Keeps)

/-- An event that is no wait, or a wait for a duration that is not negative. -/
def Event.Waits : Event → Prop
  | .control (.sleep seconds) => 0.0 ≤ seconds
  | _ => True

variable {σ α : Type} {settings : Settings} {topology : Topology} {w : World σ}
  {c : Collaborators σ}

/-- All the waits of the action are for durations that are not negative. -/
abbrev Patient (a : Act (Session σ) α) : Prop := Keeps (fun _ => True) Event.Waits a

/-- What calls no collaborator waits for nothing. -/
theorem Event.waits_of_controlCall?_eq_none {e : Event} (h : e.controlCall? = none) :
    e.Waits := by
  cases e with
  | control call => cases h
  | _ => trivial

theorem Hushed.patient {a : Act (Session σ) α} (h : Hushed a) : Patient a :=
  fun s _ => ⟨rfl, trivial, fun e he =>
    Event.waits_of_controlCall?_eq_none ((h s.views s rfl).2.2 e he)⟩

theorem Event.waits_admits : Admits (fun _ : Session σ => True) Event.Waits :=
  ⟨fun _ _ _ _ => trivial, fun _ _ => trivial, fun _ => trivial⟩

/-! ## What operations wait for -/

/-- The collaborators, but for how they wait. -/
def Collaborators.waiting (c : Collaborators σ) (sleep : Float → Act (Session σ) Unit) :
    Collaborators σ :=
  { c with sleep := sleep }

namespace Sequence

variable {sleep : Float → Act (Session σ) Unit}

/-- To look for hosts on this machine takes no collaborator. -/
theorem firstLocalOf_waiting (hosts : List String) :
    firstLocalOf ⟨settings, topology, w, c.waiting sleep⟩ hosts =
      firstLocalOf ⟨settings, topology, w, c⟩ hosts := by
  induction hosts with
  | nil => rfl
  | cons host hosts ih => rw [firstLocalOf, firstLocalOf, ih]

theorem commandHere_waiting : commandHere ⟨settings, topology, w, c.waiting sleep⟩ =
    commandHere ⟨settings, topology, w, c⟩ := by
  funext command role
  simp only [commandHere, firstLocal, firstLocalOf_waiting]
  rfl

theorem stopWorkers_waiting (hworker : sleep settings.workerGrace = c.sleep settings.workerGrace) :
    stopWorkers ⟨settings, topology, w, c.waiting sleep⟩ =
      stopWorkers ⟨settings, topology, w, c⟩ := by
  have h : (c.waiting sleep).sleep settings.workerGrace = c.sleep settings.workerGrace := hworker
  simp only [stopWorkers, h]
  rfl

theorem stopAll_waiting (hadmin : sleep settings.adminGrace = c.sleep settings.adminGrace)
    (hworker : sleep settings.workerGrace = c.sleep settings.workerGrace) :
    stopAll ⟨settings, topology, w, c.waiting sleep⟩ = stopAll ⟨settings, topology, w, c⟩ := by
  have h : (c.waiting sleep).sleep settings.adminGrace = c.sleep settings.adminGrace := hadmin
  simp only [stopAll, h, stopWorkers_waiting hworker]
  rfl

/-- Collaborators that wait alike for the two graces carry out every operation alike. -/
theorem carryOut_waiting (hadmin : sleep settings.adminGrace = c.sleep settings.adminGrace)
    (hworker : sleep settings.workerGrace = c.sleep settings.workerGrace) (op : Operation) :
    carryOut ⟨settings, topology, w, c.waiting sleep⟩ op =
      carryOut ⟨settings, topology, w, c⟩ op := by
  cases op with
  | stopAll => exact stopAll_waiting hadmin hworker
  | stopWorkers => exact stopWorkers_waiting hworker
  | restart =>
    simp only [carryOut, restart, stopAll_waiting hadmin hworker]
    rfl
  | startHere => simp only [carryOut, startHere, commandHere_waiting]
  | stopHere =>
    simp only [carryOut, stopHere, requestStopHere, firstLocal, firstLocalOf_waiting,
      commandHere_waiting]
    rfl
  | _ => rfl

end Sequence

/-! ## Patient collaborators -/

/-- The collaborators wait for nothing of their own accord, and for what they are told to
if it is not negative. -/
structure Collaborators.Obliging (c : Collaborators σ) : Prop where
  runLocal : ∀ argv additions limit, Patient (c.runLocal argv additions limit)
  runRemote : ∀ host line, Patient (c.runRemote host line)
  admin : ∀ request, Patient (c.admin request)
  purge : ∀ roles, Patient (c.purge roles)
  sleep : ∀ seconds, 0.0 ≤ seconds → Patient (c.sleep seconds)

/-- Waits as `c` does for what can be waited for, and not at all for anything else. -/
def Collaborators.guardedSleep (c : Collaborators σ) (seconds : Float) : Act (Session σ) Unit :=
  if 0.0 ≤ seconds then c.sleep seconds else pure ()

theorem Collaborators.guardedSleep_of_nonneg {seconds : Float} (h : 0.0 ≤ seconds) :
    c.guardedSleep seconds = c.sleep seconds := if_pos h

theorem Collaborators.Obliging.agree (hc : c.Obliging) :
    (c.waiting c.guardedSleep).Agree (fun _ => True) Event.Waits (c.waiting c.guardedSleep) := by
  refine ⟨hc.runLocal, hc.runRemote, hc.admin, hc.purge, fun seconds => ?_⟩
  show Patient (c.guardedSleep seconds)
  unfold guardedSleep
  split
  · exact hc.sleep seconds ‹_›
  · exact Act.keeps_pure ()

/-- Operations with settings within their bounds are patient if their collaborators are. -/
theorem Sequence.carryOut_patient (hs : settings.InBounds) (hc : c.Obliging) (op : Operation) :
    Patient (carryOut ⟨settings, topology, w, c⟩ op) := by
  have hcarry : Patient (carryOut ⟨settings, topology, w, c.waiting c.guardedSleep⟩ op) :=
    carryOut_agree Event.waits_admits hc.agree (fun _ _ _ _ => trivial) op
  rwa [carryOut_waiting (Collaborators.guardedSleep_of_nonneg hs.adminGrace)
    (Collaborators.guardedSleep_of_nonneg hs.workerGrace)] at hcarry

theorem Sequence.setGoal_patient (hc : c.Obliging) (goal : String) :
    Patient (setGoal ⟨settings, topology, w, c⟩ goal) :=
  succeeds_agree .administrative (hc.admin _) fun _ => Act.keeps_log trivial

section

variable {reenter : Transition → Act (Session σ) Unit} (hr : ∀ t, Patient (reenter t))

include hr

theorem Session.react_patient (r : Reaction σ) : Patient (Session.react reenter r) :=
  Session.react_keeps (fun _ _ h => h) (fun _ _ h => h) (fun _ _ => trivial)
    (Reaction.meets_of_forall hr r)

theorem Session.call_patient (w : World σ) {call : ControlCall}
    (hcall : (Event.control call).Waits) : Patient (Session.call w reenter call) :=
  (Act.keeps_record hcall).bind fun _ => Act.keeps_get.bind fun s =>
    Session.react_patient hr (w.control call s.world)

theorem Collaborators.direct_obliging (w : World σ) : (direct w reenter).Obliging where
  runLocal _ _ _ := Session.call_patient hr w trivial
  runRemote _ _ := Session.call_patient hr w trivial
  admin _ := Session.call_patient hr w trivial
  purge _ := Session.call_patient hr w trivial
  sleep _ h := Session.call_patient hr w h

theorem Collaborators.onSystem_obliging (w : World σ) (env : Environment) (settings : Settings)
    (a : Administration) : (onSystem w env settings a reenter).Obliging :=
  have h := onSystem_agree (fun _ _ h => h) (fun _ _ => trivial) (fun _ => trivial) w env settings
    a reenter (E := Event.Waits) fun _ => Act.keeps_pure ()
  { runLocal := h.runLocal
    runRemote := h.runRemote
    admin := h.admin
    purge := h.purge
    sleep := fun _ hd => Session.call_patient hr w hd }

end

/-! ## Clusters -/

namespace Cluster

variable {k : Cluster σ}

/-- The collaborators of the cluster are obliging if what is done about the transitions
that they ask for is patient. -/
def Obliging (k : Cluster σ) : Prop :=
  ∀ reenter, (∀ t, Patient (reenter t)) → (k.staff reenter).Obliging

theorem refuse_patient (t : Transition) : Patient (refuse t : Act (Session σ) Unit) :=
  refuse_keeps (fun _ _ h => h) t

section

variable (hs : k.settings.InBounds) (hk : k.Obliging)

include hs hk

/-- What a transition does once it is claimed. -/
theorem body_patient (t : Transition) : Patient (k.body t) := by
  have hc : (k.staff refuse).Obliging := hk refuse refuse_patient
  have hstop : Patient (Sequence.stopAll (k.crew refuse)) :=
    Sequence.carryOut_patient hs hc .stopAll
  have hphase (phase : Phase) (transition : String) :
      Patient (Session.setPhase k.world refuse phase transition) :=
    (Session.setPhase_hushed k.world phase transition).patient
  cases t with
  | start =>
    have hgoal : Patient (Sequence.setGoal (k.crew refuse) Sequence.normalGoal) :=
      Sequence.setGoal_patient hc Sequence.normalGoal
    have hstart : Patient (Sequence.startAll (k.crew refuse)) :=
      Sequence.carryOut_patient hs hc .startAll
    exact hgoal.bind fun _ => hstart.bind fun _ => (hphase _ _).bind fun _ => Act.keeps_pure _
  | stop => exact hstop.bind fun _ => (hphase _ _).bind fun _ => Act.keeps_pure _
  | terminate =>
    have hend : Patient (do
        releaseContext k
        Dispatch.close
        Session.setPhase k.world refuse .terminated Transition.terminate.name
        return (none : Option Report)) :=
      k.releaseContext_hushed.patient.bind fun _ => Dispatch.close_hushed.patient.bind fun _ =>
        (hphase _ _).bind fun _ => Act.keeps_pure _
    refine Act.keeps_get.bind fun s => ?_
    split
    · exact hstop.bind fun _ => (hphase _ _).bind fun _ => hend
    · exact hend

theorem perform_patient (t : Transition) : Patient (k.perform t) :=
  (Act.keeps_consult fun _ _ => trivial).bind fun _ =>
    (body_patient hs hk t).attempt.bind fun r =>
    (Act.keeps_modify fun _ _ => trivial).bind fun _ => Act.keeps_ofExcept r

theorem interrupt_patient (t : Transition) : Patient (k.interrupt t) :=
  (perform_patient hs hk t).bind fun _ => Act.keeps_pure ()

/-- An operation outside any transition, with the transitions that interrupt it. -/
theorem carryOut_patient (op : Operation) : Patient (k.carryOut op) :=
  Sequence.carryOut_patient hs (hk k.interrupt (interrupt_patient hs hk)) op

theorem serve_patient (r : Request) : Patient (k.serve r) := by
  by_cases ht : ∃ t, r = .transition t
  · obtain ⟨t, rfl⟩ := ht
    exact interrupt_patient hs hk t
  · intro s _
    have haside := serve_aside (k := k) (fun t he => ht ⟨t, he⟩) s.lifecycle.phase
      s.lifecycle.inFlight s.poolOpen s.views s ⟨rfl, rfl, rfl, rfl⟩
    exact ⟨rfl, trivial, fun e he => Event.waits_of_controlCall?_eq_none (haside.2.2 e he)⟩

/-- Any requests in turn, whether they fail or not. -/
theorem serveAll_patient (rs : List Request) : Patient (k.serveAll rs) :=
  Agree.each (fun r => (serve_patient hs hk r).attempt) rs

end

/-- A cluster whose collaborators the world plays can be built. -/
theorem direct_eq (hs : settings.InBounds) (hasFactory : Bool) :
    direct w settings topology hasFactory = .ok (played w settings topology hasFactory) := by
  rw [direct, hs.poolSize_eq]
  rfl

/-- Settings that are given by an environment and explicit values have every number within
its bound, and none of their times is NaN. With such settings

* operations, whoever carries them out, do not depend on waits for anything but durations
  that are not negative;
* a cluster waits for no other durations, whether it carries out an operation or serves
  requests, and whatever interrupts it. -/
theorem waits_within_bounds {env : Environment} {overrides : Entries}
    (h : Settings.fromEnvironment env overrides = .ok settings) (topology : Topology)
    (w : World σ) :
    settings.InBounds ∧ (∀ x ∈ settings.times, x.isNaN = false) ∧
      (∀ c sleep op, (∀ seconds, 0.0 ≤ seconds → sleep seconds = c.sleep seconds) →
        Sequence.carryOut ⟨settings, topology, w, c.waiting sleep⟩ op =
          Sequence.carryOut ⟨settings, topology, w, c⟩ op) ∧
      ∀ k hasFactory, (direct w settings topology hasFactory = .ok k ∨
          ∃ env, onSystem w env settings topology hasFactory = .ok k) →
        (∀ op s, ∀ e ∈ ((k.carryOut op).run s).events, e.Waits) ∧
          ∀ rs s, ∀ e ∈ ((k.serveAll rs).run s).events, e.Waits := by
  have hs : settings.InBounds := Settings.inBounds_of_construct h
  refine ⟨hs, hs.isNaN_eq_false, fun c sleep op hsleep => ?_, fun k hasFactory hk => ?_⟩
  · exact Sequence.carryOut_waiting (hsleep _ hs.adminGrace) (hsleep _ hs.workerGrace) op
  obtain ⟨hbounds, hobliging⟩ : k.settings.InBounds ∧ k.Obliging := by
    rcases hk with hk | ⟨env, hk⟩
    · obtain rfl := Except.ok.inj ((direct_eq hs hasFactory).symm.trans hk)
      exact ⟨hs, fun reenter hr => Collaborators.direct_obliging hr w⟩
    · obtain ⟨a, -, rfl⟩ := onSystem_eq hk
      exact ⟨hs, fun reenter hr => Collaborators.onSystem_obliging hr w env settings a⟩
  exact ⟨fun op s => (carryOut_patient hbounds hobliging op s trivial).2.2,
    fun rs s => (serveAll_patient hbounds hobliging rs s trivial).2.2⟩

/-- An endless grace is accepted, and so is minus zero. Where all fails that may, a cluster
that is stopped and started again waits for nothing else than is in bounds. -/
theorem waits_within_bounds_endless :
    let env : Environment :=
      [("FC_ADMIN_GRACE_SECONDS", " inf "), ("FC_WORKER_GRACE_SECONDS", "-0.0")]
    let topology : Topology := ⟨["a"], ["b"], "a", [], []⟩
    ∃ settings k, Settings.fromEnvironment env [("ssh_port", .text "2222")] = .ok settings ∧
      settings.InBounds ∧ direct World.adverse settings topology false = .ok k ∧
      ∀ e ∈ ((k.carryOut .restart).run (Session.fresh 0 {} none)).events, e.Waits := by
  intro env topology
  have hok : (Settings.fromEnvironment env [("ssh_port", .text "2222")]).toOption.isSome := by
    decide +kernel
  cases h : Settings.fromEnvironment env [("ssh_port", .text "2222")] with
  | error fault =>
    rw [h] at hok
    cases hok
  | ok settings =>
    obtain ⟨hs, -, -, hwaits⟩ := waits_within_bounds h topology World.adverse
    have hk : direct World.adverse settings topology false = .ok _ := direct_eq hs false
    exact ⟨settings, _, rfl, hs, hk, (hwaits _ false (.inl hk)).1 .restart _⟩

end Cluster

end ServerFleet
