import ServerFleet.Proofs.Staff

/-!
# Transitions

A transition claims the cluster, runs its body and releases the cluster. While the
body runs, the cluster stays claimed: what a body does besides changing the phase
leaves the `Standing` of the session as it is, and whatever is asked for by a
collaborator or a callback on the way is refused (`Cluster.body_leads`).

The body refuses those transitions outright. To carry them out instead comes to
the same, so that `Cluster.perform` is the one way of running transitions that
deals with nested ones by running them as transitions (`Cluster.perform_unique`).
-/

namespace ServerFleet

open Act (Agree Leads)

/-- What of a session transitions are about. -/
structure Standing where
  phase : Phase
  inFlight : Option String
  context : Option OpenContext
  contextsBuilt : Nat
  poolOpen : Bool

/-- The standing that a transition leads to. -/
def Standing.after (x : Standing) : Transition → Standing
  | .start => { x with phase := .started }
  | .stop => { x with phase := .stopped }
  | .terminate => { x with phase := .terminated, context := none, poolOpen := false }

/-- An event other than a transition asked for, or one that was refused because `t`
runs. -/
def Event.Rebuffed (t : Transition) : Event → Prop
  | .reentered u failure => failure = some (.refused (.terminated u.name)) ∨
    ∃ phase, failure = some (.refused (.busy u.name phase t.name))
  | _ => True

variable {σ : Type}

def Session.standing (s : Session σ) : Standing where
  phase := s.lifecycle.phase
  inFlight := s.lifecycle.inFlight
  context := s.context
  contextsBuilt := s.contextsBuilt
  poolOpen := s.poolOpen

/-- The sessions of a standing. -/
def At (x : Standing) (s : Session σ) : Prop := s.standing = x

theorem At.admits (x : Standing) (t : Transition) :
    Admits (At x : Session σ → Prop) (Event.Rebuffed t) :=
  ⟨fun _ _ _ h => h, fun _ _ => trivial, fun _ => trivial⟩

/-! ## Refusals -/

/-- Why `u` is refused in a session that `other` has claimed. -/
def Session.refusal (s : Session σ) (other : String) (u : Transition) : Failure :=
  .refused (if s.lifecycle.phase = .terminated then .terminated u.name
    else .busy u.name s.lifecycle.phase other)

/-- A transition that is refused because another one runs fails, and does nothing. -/
theorem Cluster.refuse_run {s : Session σ} {other : String}
    (h : s.lifecycle.inFlight = some other) (u : Transition) :
    (Cluster.refuse u).run s = ⟨.error (s.refusal other u), s, []⟩ := by
  have hclaim : s.lifecycle.claim u.name = .error
      (if s.lifecycle.phase = .terminated then .terminated u.name
        else .busy u.name s.lifecycle.phase other) := by
    unfold Lifecycle.claim
    rw [h]
    split <;> rfl
  simp [Cluster.refuse, Session.claim, Session.refusal, hclaim]

/-- `reenter` refuses what is asked for while `other` runs. -/
def Rebuffs (other : String) (reenter : Transition → Act (Session σ) Unit) : Prop :=
  ∀ u s, s.lifecycle.inFlight = some other → (reenter u).run s = (Cluster.refuse u).run s

theorem Cluster.refuse_rebuffs (other : String) :
    Rebuffs other (Cluster.refuse : Transition → Act (Session σ) Unit) := fun _ _ _ => rfl

theorem Cluster.interrupt_rebuffs (k : Cluster σ) (other : String) :
    Rebuffs other (Cluster.interrupt k) := fun u _ h => interrupt_of_inFlight k h u

namespace Session

variable {reenter : Transition → Act (Session σ) Unit} {t : Transition} {x : Standing}

/-- How a reaction goes on that asks for a transition in vain. -/
theorem react_run_of_error {u : Transition} {next : σ} {resume : Option Failure → σ → Reaction σ}
    {s : Session σ} {e : Failure}
    (h : (reenter u).run { s with world := next } = ⟨.error e, { s with world := next }, []⟩) :
    (react reenter (.reenter u next resume)).run s =
      let r := (react reenter (resume (some e) next)).run { s with world := next }
      ⟨r.result, r.state, .reentered u (some e) :: r.events⟩ := by
  rw [react, Act.run_bind_of_ok (Act.run_modify _ s), Act.run_bind, Act.run_map, Act.run_attempt, h]
  rfl

/-- A reaction leaves the standing alone, and all that it asks for is refused. -/
theorem react_agree (hr : Rebuffs t.name reenter) (hx : x.inFlight = some t.name)
    (r : Reaction σ) :
    Agree (At x) (Event.Rebuffed t) (react reenter r) (react Cluster.refuse r) := by
  induction r with
  | finish outcome next =>
    refine Agree.bind (Act.keeps_modify ?_) fun _ => Act.keeps_ofExcept _
    exact fun _ h => h
  | register callback rest ih =>
    refine Agree.bind (Act.keeps_modify ?_) fun _ => ih
    exact fun _ h => h
  | reenter u next resume ih =>
    intro s hs
    have hflight : ({ s with world := next } : Session σ).lifecycle.inFlight = some t.name :=
      (congrArg Standing.inFlight hs).trans hx
    have hrefuse := Cluster.refuse_run hflight u
    obtain ⟨heq, hat, hev⟩ := ih (some (({ s with world := next } : Session σ).refusal t.name u))
      next { s with world := next } hs
    rw [react_run_of_error ((hr u _ hflight).trans hrefuse), react_run_of_error hrefuse]
    refine ⟨by rw [heq], hat, fun e he => ?_⟩
    rcases List.mem_cons.mp he with rfl | he
    · simp only [Event.Rebuffed, refusal]
      split
      · exact .inl rfl
      · exact .inr ⟨_, rfl⟩
    · exact hev e he

/-- A call leaves the standing alone. -/
theorem call_agree (w : World σ) (hr : Rebuffs t.name reenter) (hx : x.inFlight = some t.name)
    (c : ControlCall) :
    Agree (At x) (Event.Rebuffed t) (call w reenter c) (call w Cluster.refuse c) := by
  refine Agree.bind (Act.keeps_record ?_) fun _ =>
    Act.keeps_get.bind fun s => react_agree hr hx (w.control c s.world)
  trivial

end Session

/-! ## Changes of the phase -/

namespace Session

variable {I J : Session σ → Prop} {E : Event → Prop}
  {reenter reenter' : Transition → Act (Session σ) Unit}

/-- Callbacks are told without fail. -/
theorem tell_leads (w : World σ)
    (hreact : ∀ r, Agree I E (react reenter r) (react reenter' r))
    (hcallback : ∀ c phase transition seen, E (.callback c phase transition seen))
    (hlog : ∀ level text, E (.log level text)) (phase : Phase) (transition : String)
    (callback : Callback) :
    Leads I E (tell w reenter phase transition callback)
      (tell w reenter' phase transition callback) (fun _ => I) (fun _ => False) := by
  refine (Act.leads_get.imp (fun _ _ h => h.2) fun _ h => h).bind fun s => ?_
  refine (Act.leads_record (hcallback ..)).bind fun _ => ?_
  refine (hreact (w.callback callback phase transition s.world)).leads_attempt.bind fun r => ?_
  cases r with
  | ok _ => exact Act.leads_pure _ fun _ h => h
  | error _ => exact Act.leads_record (hlog ..)

/-- The phase changes without fail, whatever becomes of the callbacks. -/
theorem setPhase_leads (w : World σ) {phase : Phase}
    (hstore : ∀ s, I s → J { s with lifecycle := s.lifecycle.store phase })
    (hreact : ∀ r, Agree J E (react reenter r) (react reenter' r))
    (hcallback : ∀ c phase transition seen, E (.callback c phase transition seen))
    (hlog : ∀ level text, E (.log level text)) (transition : String) :
    Leads I E (setPhase w reenter phase transition) (setPhase w reenter' phase transition)
      (fun _ => J) (fun _ => False) := by
  refine (Act.leads_modify (J := fun _ => J) hstore).bind fun _ => ?_
  refine (Act.leads_get.imp (fun _ _ h => h.2) fun _ h => h).bind fun s => ?_
  refine (Leads.each (tell_leads w hreact hcallback hlog phase transition)
    s.lifecycle.callbacks).bind fun _ => ?_
  exact Act.leads_pure () fun _ h => h

theorem setPhase_ok (w : World σ) (phase : Phase) (transition : String) (s : Session σ) :
    ((setPhase w reenter phase transition).run s).result = .ok () := by
  have hleads : Leads (fun _ => True) (fun _ => True) (setPhase w reenter phase transition)
      (setPhase w reenter phase transition) (fun _ _ => True) (fun _ => False) :=
    setPhase_leads (I := fun _ => True) (J := fun _ => True) w (fun _ h => h)
      (fun _ _ _ => ⟨rfl, trivial, fun _ _ => trivial⟩) (fun _ _ _ _ => trivial)
      (fun _ _ => trivial) transition
  obtain ⟨-, -, hend⟩ := hleads s trivial
  generalize ((setPhase w reenter phase transition).run s).result = res at hend
  cases res with
  | ok _ => rfl
  | error e => exact hend.elim

/-- While a transition runs, only the phase of the standing changes with it. -/
theorem setPhase_at (w : World σ) {t : Transition} {x : Standing} (hr : Rebuffs t.name reenter)
    (hx : x.inFlight = some t.name) (phase : Phase) (transition : String) :
    Leads (At x) (Event.Rebuffed t) (setPhase w reenter phase transition)
      (setPhase w Cluster.refuse phase transition) (fun _ => At { x with phase := phase })
      (fun _ => False) := by
  let y : Standing := { x with phase := phase }
  have hy : y.inFlight = some t.name := hx
  refine setPhase_leads (J := At y) w ?_ (react_agree hr hy) (fun _ _ _ _ => trivial)
    (fun _ _ => trivial) transition
  rintro s rfl
  rfl

end Session

/-! ## Collaborators during a transition -/

namespace Cluster

/-- While a transition runs, the collaborators leave the standing alone, and it is no
matter to them whether what they ask for is refused outright or runs and is refused. -/
def Staffed (k : Cluster σ) : Prop :=
  ∀ (t : Transition) (x : Standing) (reenter : Transition → Act (Session σ) Unit),
    x.inFlight = some t.name → Rebuffs t.name reenter →
      (k.staff reenter).Agree (At x) (Event.Rebuffed t) (k.staff refuse)

/-- A cluster whose collaborators the world plays. -/
def played (w : World σ) (settings : Settings) (topology : Topology) (hasFactory : Bool) :
    Cluster σ :=
  ⟨settings, topology, w, Collaborators.direct w, hasFactory⟩

theorem played_staffed (w : World σ) (settings : Settings) (topology : Topology)
    (hasFactory : Bool) : (played w settings topology hasFactory).Staffed :=
  fun _ _ _ hx hr =>
    ⟨fun _ _ _ => Session.call_agree w hr hx _, fun _ _ => Session.call_agree w hr hx _,
      fun _ => Session.call_agree w hr hx _, fun _ => Session.call_agree w hr hx _,
      fun _ => Session.call_agree w hr hx _⟩

/-! ## The bodies of transitions -/

variable (k : Cluster σ) (reenter : Transition → Act (Session σ) Unit)

/-- What a transition does once it is claimed, with `reenter` for the transitions that
are asked for on the way. -/
def bodyWith : Transition → Act (Session σ) (Option Report)
  | .start => do
    let _ ← Sequence.setGoal (k.crew reenter) Sequence.normalGoal
    let report ← Sequence.startAll (k.crew reenter)
    Session.setPhase k.world reenter .started Transition.start.name
    return some report
  | .stop => do
    let report ← Sequence.stopAll (k.crew reenter)
    Session.setPhase k.world reenter .stopped Transition.stop.name
    return some report
  | .terminate => do
    if (← Act.get).lifecycle.phase = .started then
      let _ ← Sequence.stopAll (k.crew reenter)
      Session.setPhase k.world reenter .stopped Transition.terminate.name
    releaseContext k
    Dispatch.close
    Session.setPhase k.world reenter .terminated Transition.terminate.name
    return none

theorem bodyWith_refuse (t : Transition) : k.bodyWith refuse t = k.body t := by
  cases t <;> rfl

/-- The end of a transition that gives a report. -/
def conclude (w : World σ) (phase : Phase) (t : Transition) (report : Report) :
    Act (Session σ) (Option Report) := do
  Session.setPhase w refuse phase t.name
  return some report

theorem body_start : k.body .start =
    (do
      let _ ← Sequence.setGoal (k.crew refuse) Sequence.normalGoal
      Sequence.startAll (k.crew refuse)) >>= conclude k.world .started .start := by
  simp only [bind_assoc]
  rfl

theorem body_stop : k.body .stop =
    Sequence.stopAll (k.crew refuse) >>= conclude k.world .stopped .stop := rfl

/-- The first part of a termination: a fleet that is started is stopped. -/
def haltFirst : Act (Session σ) Unit := do
  if (← Act.get).lifecycle.phase = .started then
    let _ ← Sequence.stopAll (k.crew refuse)
    Session.setPhase k.world refuse .stopped Transition.terminate.name

/-- The second part of a termination. -/
def closeDown : Act (Session σ) (Option Report) := do
  releaseContext k
  Dispatch.close
  Session.setPhase k.world refuse .terminated Transition.terminate.name
  return none

theorem body_terminate : k.body .terminate = k.haltFirst >>= fun _ => k.closeDown := by
  simp only [haltFirst, bind_assoc]
  refine congrArg (Act.get >>= ·) (funext fun s => ?_)
  split
  · simp only [bind_assoc]
    rfl
  · rfl

theorem haltFirst_run_of_started {s : Session σ} (h : s.lifecycle.phase = .started) :
    k.haltFirst.run s = (Sequence.stopAll (k.crew refuse) >>= fun _ =>
      Session.setPhase k.world refuse .stopped Transition.terminate.name).run s := by
  rw [haltFirst, Act.run_bind_of_ok (Act.run_get s), if_pos h]
  rfl

theorem haltFirst_run_of_not_started {s : Session σ} (h : s.lifecycle.phase ≠ .started) :
    k.haltFirst.run s = ⟨.ok (), s, []⟩ := by
  rw [haltFirst, Act.run_bind_of_ok (Act.run_get s), if_neg h]
  rfl

/-- Once there is a report, the transition gives it. -/
theorem conclude_ok {a : Act (Session σ) Report} {s : Session σ} {report : Report}
    (h : (a.run s).result = .ok report) (w : World σ) (phase : Phase) (t : Transition) :
    ((a >>= conclude w phase t).run s).result = .ok (some report) := by
  rw [Act.run_bind]
  simp only [Act.after, h, conclude, Act.run_bind, Session.setPhase_ok, Act.run_pure]

variable {k reenter} {t : Transition} {x : Standing}

section

variable {I : Session σ → Prop} {E : Event → Prop}
  (hworld : ∀ s world, I s → I { s with world := world })

include hworld

theorem closeContext_keeps (w : World σ) (number : Nat) :
    Act.Keeps I E (Session.inWorld (Act.consult (w.closeContext number))) := by
  refine Agree.zoom (J := fun _ => True) (Act.keeps_consult ?_) (fun _ _ => trivial) ?_
  · exact fun _ h => h
  · exact fun s world h _ => hworld s world h

/-- What is no matter of contexts is kept when one is released. -/
theorem releaseContext_keeps (hforget : ∀ s, I s → I { s with context := none })
    (hlog : ∀ level text, E (.log level text)) (hclose : ∀ number, E (.contextClose number)) :
    Act.Keeps I E k.releaseContext := by
  refine Act.keeps_get.bind fun s => ?_
  rcases s.context with _ | context
  · exact Act.keeps_pure ()
  dsimp only
  split
  · exact (Act.keeps_log (hlog ..)).bind fun _ => (Act.keeps_record (hclose _)).bind fun _ =>
      (closeContext_keeps hworld k.world context.number).bind fun _ => Act.keeps_modify hforget
  · exact Act.keeps_modify hforget

end

/-- The context is forgotten, unless it cannot be closed. -/
theorem releaseContext_leads :
    Leads (At x) (Event.Rebuffed t) (releaseContext k) (releaseContext k)
      (fun _ => At { x with context := none }) (At x) := by
  refine Act.leads_get.bind fun s => ?_
  rcases hc : s.context with _ | context
  · refine Act.leads_pure () ?_
    rintro _ ⟨rfl, rfl⟩
    simp [At, Session.standing, hc]
  · have hforget : Leads (At x) (Event.Rebuffed t)
        (Act.modify fun s : Session σ => { s with context := none })
        (Act.modify fun s => { s with context := none })
        (fun _ => At { x with context := none }) (At x) := by
      refine Act.leads_modify ?_
      rintro s rfl
      rfl
    refine Leads.pre (I := At x) ?_ fun _ h => h.2
    dsimp only
    split
    · have hclose : Act.Keeps (At x) (Event.Rebuffed t)
          (Session.inWorld (Act.consult (k.world.closeContext context.number))) :=
        closeContext_keeps (fun _ _ h => h) k.world context.number
      exact (Act.leads_record trivial).bind fun _ => (Act.leads_record trivial).bind fun _ =>
        hclose.leads.bind fun _ => hforget
    · exact hforget

/-- The end of a termination: without fail, once the context is released. -/
theorem finish_leads (hr : Rebuffs Transition.terminate.name reenter)
    (hx : x.inFlight = some Transition.terminate.name) :
    Leads (At x) (Event.Rebuffed .terminate)
      (do
        releaseContext k
        Dispatch.close
        Session.setPhase k.world reenter .terminated Transition.terminate.name
        return (none : Option Report))
      (do
        releaseContext k
        Dispatch.close
        Session.setPhase k.world refuse .terminated Transition.terminate.name
        return none)
      (fun _ => At (x.after .terminate)) (At x) := by
  let y : Standing := { x with context := none, poolOpen := false }
  refine releaseContext_leads.bind fun _ => ?_
  refine Leads.bind (J := fun _ => At y) (Act.leads_modify ?_) fun _ => ?_
  · intro s hs
    show { s.standing with poolOpen := false } = y
    rw [hs]
  have hy : y.inFlight = some Transition.terminate.name := hx
  exact ((Session.setPhase_at k.world hr hy .terminated _).imp (fun _ _ h => h) nofun).bind
    fun _ => Act.leads_pure none fun _ h => h

/-- Where the body of a transition leads: on, or back to where it began, except that a
termination may have stopped the fleet by then. -/
theorem body_leads (hk : k.Staffed) (hr : Rebuffs t.name reenter) (hx : x.inFlight = some t.name) :
    Leads (At x) (Event.Rebuffed t) (k.bodyWith reenter t) (k.body t) (fun _ => At (x.after t))
      fun s => At x s ∨ t = .terminate ∧ At { x with phase := .stopped } s := by
  have ha := At.admits (σ := σ) x t
  have hc := hk t x reenter hx hr
  have hstopAll : Agree (At x) (Event.Rebuffed t) (Sequence.stopAll (k.crew reenter))
      (Sequence.stopAll (k.crew refuse)) := Sequence.stopAll_agree ha hc
  have hback {α : Type} {a b : Act (Session σ) α} {J : α → Session σ → Prop}
      (h : Leads (At x) (Event.Rebuffed t) a b J (At x)) :
      Leads (At x) (Event.Rebuffed t) a b J
        fun s => At x s ∨ t = .terminate ∧ At { x with phase := .stopped } s :=
    h.imp (fun _ _ h => h) fun _ => .inl
  cases t with
  | start =>
    refine hback ?_
    refine (Sequence.setGoal_agree ha hc _).leads.bind fun _ =>
      (Sequence.startAll_agree ha hc).leads.bind fun report => ?_
    refine ((Session.setPhase_at k.world hr hx .started _).imp (fun _ _ h => h) nofun).bind
      fun _ => Act.leads_pure _ fun _ h => h
  | stop =>
    refine hback ?_
    refine hstopAll.leads.bind fun report => ?_
    refine ((Session.setPhase_at k.world hr hx .stopped _).imp (fun _ _ h => h) nofun).bind
      fun _ => Act.leads_pure _ fun _ h => h
  | terminate =>
    refine (Act.leads_get.imp (fun _ _ h => h) fun _ => .inl).bind fun s => ?_
    dsimp only
    split
    · refine Leads.pre (I := At x) ?_ fun _ h => h.2
      refine (hback hstopAll.leads).bind fun _ => ?_
      refine ((Session.setPhase_at k.world hr hx .stopped _).imp (fun _ _ h => h) nofun).bind
        fun _ => ?_
      exact (finish_leads (x := { x with phase := .stopped }) hr hx).imp (fun _ _ h => h)
        fun _ h => .inr ⟨rfl, h⟩
    · exact Leads.pre (I := At x) (hback (finish_leads hr hx)) fun _ h => h.2

theorem body_ok (hk : k.Staffed) {s : Session σ} (hs : s.lifecycle.inFlight = some t.name)
    {report : Option Report} (h : ((k.body t).run s).result = .ok report) :
    ((k.body t).run s).state.standing = s.standing.after t := by
  rw [← bodyWith_refuse] at h ⊢
  exact (body_leads (x := s.standing) hk (refuse_rebuffs _) hs).of_ok rfl h

theorem body_error (hk : k.Staffed) {s : Session σ} (hs : s.lifecycle.inFlight = some t.name)
    {e : Failure} (h : ((k.body t).run s).result = .error e) :
    ((k.body t).run s).state.standing = s.standing ∨
      t = .terminate ∧
        ((k.body t).run s).state.standing = { s.standing with phase := .stopped } := by
  rw [← bodyWith_refuse] at h ⊢
  exact (body_leads (x := s.standing) hk (refuse_rebuffs _) hs).of_error rfl h

theorem body_rebuffed (hk : k.Staffed) {s : Session σ} (hs : s.lifecycle.inFlight = some t.name) :
    ∀ e ∈ ((k.body t).run s).events, e.Rebuffed t := by
  rw [← bodyWith_refuse]
  exact (body_leads (x := s.standing) hk (refuse_rebuffs _) hs s rfl).2.1

end Cluster

/-! ## Running transitions -/

namespace Session

/-- The session in which the body of a transition runs. -/
def claimed (s : Session σ) (transition : String) : Session σ :=
  { s with lifecycle := { s.lifecycle with inFlight := some transition } }

/-- The session that a transition leaves. -/
def released (s : Session σ) : Session σ := { s with lifecycle := s.lifecycle.release }

/-- Whether a transition can be claimed. -/
structure Idle (s : Session σ) : Prop where
  phase : s.lifecycle.phase ≠ .terminated
  inFlight : s.lifecycle.inFlight = none

variable {α : Type} {s : Session σ} {transition : String}

/-- Any other session refuses to be claimed. -/
theorem claim_refused (h : ¬ s.Idle) (transition : String) :
    ∃ refusal, s.lifecycle.claim transition = .error refusal ∧
      (claim transition).run s = ⟨.error (.refused refusal), s, []⟩ := by
  rcases hl : s.lifecycle.claim transition with refusal | lifecycle
  · exact ⟨refusal, rfl, by simp [claim, hl]⟩
  · obtain ⟨hp, hf, -⟩ := Lifecycle.claim_eq_ok_iff.mp hl
    exact absurd ⟨hp, hf⟩ h

theorem claim_run (h : s.Idle) (transition : String) :
    (claim transition).run s = ⟨.ok (), s.claimed transition, []⟩ := by
  have hl : s.lifecycle.claim transition =
      .ok { s.lifecycle with inFlight := some transition } :=
    Lifecycle.claim_eq_ok_iff.mpr ⟨h.phase, h.inFlight, rfl⟩
  simp [claim, hl, claimed]

/-- An idle session is claimed for a body, and released after it. -/
theorem during_run (h : s.Idle) (a : Act (Session σ) α) :
    (during transition a).run s =
      let r := a.run (s.claimed transition)
      ⟨r.result, r.state.released, r.events⟩ := by
  rw [during, Act.run_bind_of_ok (claim_run h transition),
    Act.run_bind_of_ok (Act.run_attempt a _)]
  simp [modifyLifecycle, Act.run_bind, Act.after, released]

/-- A transition that is refused does nothing. -/
theorem during_refused (h : ¬ s.Idle) (transition : String) (a : Act (Session σ) α) :
    ∃ refusal, s.lifecycle.claim transition = .error refusal ∧
      (during transition a).run s = ⟨.error (.refused refusal), s, []⟩ := by
  obtain ⟨refusal, hl, hclaim⟩ := claim_refused h transition
  exact ⟨refusal, hl, Act.run_bind_of_error hclaim⟩

/-- Bodies that run alike while a transition runs make the same transition. -/
theorem during_congr {a b : Act (Session σ) α}
    (h : ∀ s : Session σ, s.lifecycle.inFlight = some transition → a.run s = b.run s) :
    during transition a = during transition b := by
  refine Act.ext fun s => ?_
  by_cases hs : s.Idle
  · rw [during_run hs, during_run hs, h (s.claimed transition) rfl]
  · obtain ⟨refusal, -, hclaim⟩ := claim_refused hs transition
    exact (Act.run_bind_of_error hclaim).trans (Act.run_bind_of_error hclaim).symm

end Session

namespace Cluster

/-- What is asked for during a transition is refused by running it as one. -/
theorem during_rebuffs {α : Type} (a : Transition → Act (Session σ) α) (other : String) :
    Rebuffs other fun u => do
      let _ ← Session.during u.name (a u)
      return () := by
  intro u s hs
  have hbusy : ¬ s.Idle := fun h => by rw [h.inFlight] at hs; cases hs
  obtain ⟨refusal, -, hclaim⟩ := Session.claim_refused hbusy u.name
  exact (Act.run_bind_of_error (Act.run_bind_of_error hclaim)).trans hclaim.symm

/-- It is no matter how the transitions asked for on the way are refused. -/
theorem during_bodyWith {k : Cluster σ} (hk : k.Staffed)
    {reenter : Transition → Act (Session σ) Unit} (hr : ∀ other, Rebuffs other reenter)
    (t : Transition) : Session.during t.name (k.bodyWith reenter t) = k.perform t :=
  Session.during_congr fun _ hs => (body_leads hk (hr t.name) hs _ rfl).1

/-- Carrying out a transition is the one way of running it that deals with those that
are asked for on the way in the same way. -/
theorem perform_unique {k : Cluster σ} (hk : k.Staffed)
    (p : Transition → Act (Session σ) (Option Report)) :
    (∀ t, p t = Session.during t.name (k.bodyWith (fun u => do
      let _ ← p u
      return ()) t)) ↔ p = k.perform := by
  constructor
  · intro h
    have hr (other : String) : Rebuffs other fun u => do
        let _ ← p u
        return () := by
      intro u s hs
      show (p u >>= fun _ => pure ()).run s = (refuse u).run s
      rw [h u]
      exact during_rebuffs _ other u s hs
    exact funext fun t => (h t).trans (during_bodyWith hk hr t)
  · rintro rfl t
    exact (during_bodyWith hk (fun other => k.interrupt_rebuffs other) t).symm

end Cluster

end ServerFleet
