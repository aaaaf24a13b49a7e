import ServerFleet.Proofs.Transitions

/-!
# Holding a cluster

Whoever holds a cluster asks it for transitions, for its context, and to tell
callbacks of changes, any number of times and in any order (`Cluster.serveAll`).
Each transition is lawful (`Cluster.Lawful`): it leaves the cluster unclaimed, in
the phase it is for if it gives a result, and in the phase it found if it fails,
except that a termination may leave a fleet stopped.

`Cluster.lifecycle_law` puts this together for every run, with any collaborators
that the world plays: they and the callbacks may fail, ask for transitions or
register callbacks whenever they are called.
-/

namespace ServerFleet

/-- What a cluster may be asked for by its holder. -/
inductive Request where
  | transition (t : Transition)
  | context
  | register (callback : Callback)

/-- The phase that a transition is for. -/
def Transition.goal : Transition → Phase
  | start => .started
  | stop => .stopped
  | terminate => .terminated

variable {σ : Type}

/-- The session that a cluster begins with. -/
def Session.fresh (world : σ) (identity : Identity) (ownIdentity : Option Identity) :
    Session σ where
  world := world
  identity := identity
  ownIdentity := ownIdentity

namespace Cluster

variable (k : Cluster σ)

/-- Serves a request. -/
def serve : Request → Act (Session σ) Unit
  | .transition t => k.interrupt t
  | .context => do
    let _ ← k.serverContext
    return ()
  | .register callback => Session.modifyLifecycle (·.register callback)

/-- Serves requests in turn, whether they fail or not. -/
def serveAll (requests : List Request) : Act (Session σ) (List (Except Failure Unit)) :=
  Act.each (fun r => (k.serve r).attempt) requests

variable {k}

theorem serveAll_cons (r : Request) (rs : List Request) (s : Session σ) :
    let first := (k.serve r).run s
    ((k.serveAll (r :: rs)).run s).state = ((k.serveAll rs).run first.state).state ∧
      ((k.serveAll (r :: rs)).run s).events =
        first.events ++ ((k.serveAll rs).run first.state).events := by
  unfold serveAll
  rw [Act.each, Act.run_bind_of_ok (Act.run_attempt _ _)]
  exact ⟨rfl, rfl⟩

theorem serveAll_cons_result (r : Request) (rs : List Request) (s : Session σ) :
    let first := (k.serve r).run s
    ((k.serveAll (r :: rs)).run s).result =
      (first.result :: ·) <$> ((k.serveAll rs).run first.state).result := by
  unfold serveAll
  rw [Act.each, Act.run_bind_of_ok (Act.run_attempt _ _)]
  rfl

theorem serveAll_append (rs more : List Request) (s : Session σ) :
    let first := (k.serveAll rs).run s
    ((k.serveAll (rs ++ more)).run s).state = ((k.serveAll more).run first.state).state ∧
      ((k.serveAll (rs ++ more)).run s).events =
        first.events ++ ((k.serveAll more).run first.state).events := by
  induction rs generalizing s with
  | nil => exact ⟨rfl, rfl⟩
  | cons r rs ih =>
    obtain ⟨hstate, hevents⟩ := serveAll_cons (k := k) r rs s
    obtain ⟨hstate', hevents'⟩ := serveAll_cons (k := k) r (rs ++ more) s
    obtain ⟨ihstate, ihevents⟩ := ih ((k.serve r).run s).state
    dsimp only
    rw [hstate, hevents, List.cons_append, hstate', hevents', ihstate, ihevents, List.append_assoc]
    exact ⟨rfl, rfl⟩

/-- What holds at first and is kept by every request holds after any of them, where
the events so far are at hand. -/
theorem serveAll_invariant {P : Session σ → List Event → Prop} {s : Session σ} {es : List Event}
    (h : P s es)
    (hstep : ∀ r s es, P s es →
      P ((k.serve r).run s).state (es ++ ((k.serve r).run s).events)) (rs : List Request) :
    P ((k.serveAll rs).run s).state (es ++ ((k.serveAll rs).run s).events) := by
  induction rs generalizing s es with
  | nil => simpa [serveAll, Act.each] using h
  | cons r rs ih =>
    obtain ⟨hstate, hevents⟩ := serveAll_cons (k := k) r rs s
    rw [hstate, hevents, ← List.append_assoc]
    exact ih (hstep r s es h)

theorem serveAll_keeps {P : Session σ → Prop} {s : Session σ} (h : P s)
    (hstep : ∀ r s, P s → P ((k.serve r).run s).state) (rs : List Request) :
    P ((k.serveAll rs).run s).state :=
  @serveAll_invariant _ k (fun s _ => P s) s [] h (fun r s _ => hstep r s) rs

/-! ## Transitions by themselves -/

/-- What a transition does in a session that no other one has claimed. -/
structure Lawful (k : Cluster σ) (t : Transition) (s : Session σ) : Prop where
  released : ((k.perform t).run s).state.lifecycle.inFlight = none
  done : ∀ report, ((k.perform t).run s).result = .ok report →
    ((k.perform t).run s).state.lifecycle.phase = t.goal ∧
      (t = .terminate → ((k.perform t).run s).state.poolOpen = false)
  failed : ∀ e, ((k.perform t).run s).result = .error e →
    ((k.perform t).run s).state.lifecycle.phase = s.lifecycle.phase ∨
      t = .terminate ∧ ((k.perform t).run s).state.lifecycle.phase = .stopped
  pool : ((k.perform t).run s).state.lifecycle.phase ≠ .terminated →
    ((k.perform t).run s).state.poolOpen = s.poolOpen
  /-- What was asked for on the way was refused. -/
  rebuffed : ∀ e ∈ ((k.perform t).run s).events, e.Rebuffed t
  /-- Nothing is done for a terminated cluster. -/
  terminated : s.lifecycle.phase = .terminated →
    (k.perform t).run s = ⟨.error (.refused (.terminated t.name)), s, []⟩

theorem perform_terminated {s : Session σ} (h : s.lifecycle.phase = .terminated) (t : Transition) :
    (k.perform t).run s = ⟨.error (.refused (.terminated t.name)), s, []⟩ := by
  have hidle : ¬ s.Idle := fun hi => hi.phase h
  obtain ⟨refusal, hclaim, hrun⟩ := Session.during_refused hidle t.name (k.body t)
  have hterminated : s.lifecycle.claim t.name = .error (.terminated t.name) :=
    Lifecycle.claim_eq_error_iff.mpr (.inl ⟨h, rfl⟩)
  obtain rfl := Except.error.inj (hclaim.symm.trans hterminated)
  exact hrun

/-- A transition that is asked for while another one runs is refused. -/
theorem perform_busy {s : Session σ} {other : String} (h : s.lifecycle.inFlight = some other)
    (u : Transition) :
    ∃ refusal, (k.perform u).run s = ⟨.error (.refused refusal), s, []⟩ ∧
      refusal.transition = u.name := by
  have hbusy : ¬ s.Idle := fun hi => by rw [hi.inFlight] at h; cases h
  obtain ⟨refusal, hclaim, hrun⟩ := Session.during_refused hbusy u.name (k.body u)
  refine ⟨refusal, hrun, ?_⟩
  rcases Lifecycle.claim_eq_error_iff.mp hclaim with ⟨-, rfl⟩ | ⟨-, _, -, rfl⟩ <;> rfl

/-- Every transition of an unclaimed cluster is lawful. -/
theorem lawful (hk : k.Staffed) {s : Session σ} (h : s.lifecycle.inFlight = none)
    (t : Transition) : Lawful k t s := by
  by_cases hp : s.lifecycle.phase = .terminated
  · have hrun := perform_terminated (k := k) hp t
    constructor
    · rw [hrun]; exact h
    · rw [hrun]; rintro _ ⟨⟩
    · rw [hrun]; exact fun _ _ => .inl rfl
    · rw [hrun]; exact fun _ => rfl
    · rw [hrun]; rintro _ ⟨⟩
    · exact fun _ => hrun
  · let c := s.claimed t.name
    have hrun : (k.perform t).run s =
        ⟨((k.body t).run c).result, ((k.body t).run c).state.released, ((k.body t).run c).events⟩ :=
      Session.during_run ⟨hp, h⟩ (k.body t)
    have hclaimed : c.lifecycle.inFlight = some t.name := rfl
    have hok {report} (hr : ((k.body t).run c).result = .ok report) :
        ((k.body t).run c).state.standing = c.standing.after t := body_ok hk hclaimed hr
    have herror {e} (hr : ((k.body t).run c).result = .error e) :
        ((k.body t).run c).state.standing = c.standing ∨
          t = .terminate ∧
            ((k.body t).run c).state.standing = { c.standing with phase := .stopped } :=
      body_error hk hclaimed hr
    constructor
    · rw [hrun]
      rfl
    · rw [hrun]
      intro report hr
      refine ⟨(congrArg Standing.phase (hok hr)).trans (by cases t <;> rfl), ?_⟩
      rintro rfl
      exact congrArg Standing.poolOpen (hok hr)
    · rw [hrun]
      intro e hr
      exact (herror hr).imp (congrArg Standing.phase) (And.imp_right (congrArg Standing.phase))
    · rw [hrun]
      intro hphase
      rcases hr : ((k.body t).run c).result with e | report
      · rcases herror hr with hat | ⟨-, hat⟩ <;> exact congrArg Standing.poolOpen hat
      · have hat := hok hr
        cases t with
        | terminate => exact absurd (congrArg Standing.phase hat) hphase
        | _ => exact congrArg Standing.poolOpen hat
    · rw [hrun]
      exact body_rebuffed hk hclaimed
    · exact fun ht => absurd ht hp

/-! ## Runs -/

/-- What requests other than transitions leave alone. -/
def Aside (phase : Phase) (inFlight : Option String) (isOpen : Bool) (v : Views)
    (s : Session σ) : Prop :=
  s.lifecycle.phase = phase ∧ s.lifecycle.inFlight = inFlight ∧ s.poolOpen = isOpen ∧ s.views = v

/-- What is no matter of contexts is kept when one is asked for. -/
theorem serverContext_keeps {I : Session σ → Prop} {E : Event → Prop}
    (hworld : ∀ s world, I s → I { s with world := world })
    (hbuilt : ∀ s context built, I s → I { s with context := context, contextsBuilt := built })
    (hbuild : ∀ kind, E (.contextBuild kind)) : Act.Keeps I E k.serverContext := by
  unfold serverContext
  split
  · refine Act.keeps_get.bind fun s => ?_
    rcases s.context with _ | context
    · exact (Act.keeps_modify fun t => hworld t _).bind fun _ =>
        (Act.keeps_record (hbuild _)).bind fun _ => (Act.keeps_ofExcept _).bind fun shape =>
        (Act.keeps_modify fun t => hbuilt t _ _).bind fun _ => Act.keeps_pure _
    · exact Act.keeps_pure context
  · exact Act.keeps_fail _

theorem serve_aside {r : Request} (hr : ∀ t, r ≠ .transition t) (phase : Phase)
    (inFlight : Option String) (isOpen : Bool) (v : Views) :
    Act.Keeps (Aside phase inFlight isOpen v) (fun e => e.controlCall? = none) (k.serve r) := by
  cases r with
  | transition t => exact absurd rfl (hr t)
  | register callback =>
    refine Act.keeps_modify ?_
    exact fun _ h => h
  | context =>
    exact (serverContext_keeps (fun _ _ h => h) (fun _ _ _ h => h) fun _ => rfl).bind
      fun _ => Act.keeps_pure ()

theorem interrupt_run (k : Cluster σ) (t : Transition) (s : Session σ) :
    (k.interrupt t).run s =
      ⟨(fun _ => ()) <$> ((k.perform t).run s).result, ((k.perform t).run s).state,
        ((k.perform t).run s).events⟩ :=
  Act.after_value _ _

/-- A session between requests: no transition has claimed it, and its pool is open
unless the cluster is terminated. -/
structure Ready (s : Session σ) : Prop where
  unclaimed : s.lifecycle.inFlight = none
  isOpen : s.lifecycle.phase ≠ .terminated → s.poolOpen = true

theorem Ready.fresh (world : σ) (identity : Identity) (ownIdentity : Option Identity) :
    Ready (Session.fresh world identity ownIdentity) := ⟨rfl, fun _ => rfl⟩

theorem Ready.perform (hk : k.Staffed) {s : Session σ} (h : Ready s) (t : Transition) :
    Ready ((k.perform t).run s).state := by
  have hlawful := lawful hk h.unclaimed t
  refine ⟨hlawful.released, fun hphase => (hlawful.pool hphase).trans (h.isOpen fun hp => ?_)⟩
  rw [hlawful.terminated hp] at hphase
  exact hphase hp

theorem Ready.serve (hk : k.Staffed) {s : Session σ} (h : Ready s) (r : Request) :
    Ready ((k.serve r).run s).state := by
  by_cases ht : ∃ t, r = .transition t
  · obtain ⟨t, rfl⟩ := ht
    rw [Cluster.serve, interrupt_run]
    exact h.perform hk t
  · obtain ⟨hphase, hflight, hpool, -⟩ :=
      (serve_aside (k := k) (fun t he => ht ⟨t, he⟩) _ _ _ _ s ⟨rfl, rfl, rfl, rfl⟩).2.1
    refine ⟨hflight.trans h.unclaimed, ?_⟩
    rw [hphase, hpool]
    exact h.isOpen

theorem Ready.serveAll (hk : k.Staffed) {s : Session σ} (h : Ready s) (rs : List Request) :
    Ready ((k.serveAll rs).run s).state :=
  serveAll_keeps h (fun r _ h => h.serve hk r) rs

theorem serve_terminated {s : Session σ} (h : s.lifecycle.phase = .terminated) (r : Request) :
    ((k.serve r).run s).state.lifecycle.phase = .terminated := by
  cases r with
  | transition t =>
    rw [serve, interrupt_run, perform_terminated h]
    exact h
  | context => exact (serve_aside (r := .context) nofun _ _ _ _ s ⟨h, rfl, rfl, rfl⟩).2.1.1
  | register callback => exact h

/-- A terminated cluster stays terminated. -/
theorem serveAll_terminated {s : Session σ} (h : s.lifecycle.phase = .terminated)
    (rs : List Request) : ((k.serveAll rs).run s).state.lifecycle.phase = .terminated :=
  serveAll_keeps (P := fun s => s.lifecycle.phase = .terminated) h
    (fun r _ h => serve_terminated h r) rs

/-- After any requests to a cluster, whatever its collaborators and callbacks do:

* no transition has claimed it, and the next one is lawful;
* while one runs, another one fails and does nothing, and it is in this way that
  transitions deal with those that collaborators and callbacks ask for;
* once it is terminated, it stays so. -/
theorem lifecycle_law (w : World σ) (settings : Settings) (topology : Topology)
    (hasFactory : Bool) (world : σ) (identity : Identity) (ownIdentity : Option Identity)
    (rs : List Request) :
    let k := played w settings topology hasFactory
    let s := ((k.serveAll rs).run (Session.fresh world identity ownIdentity)).state
    s.lifecycle.inFlight = none ∧
      (∀ t, Lawful k t s) ∧
      (∀ (s : Session σ) other u, s.lifecycle.inFlight = some other →
        ∃ refusal, (k.perform u).run s = ⟨.error (.refused refusal), s, []⟩ ∧
          refusal.transition = u.name) ∧
      (∀ t, k.perform t = Session.during t.name (k.bodyWith k.interrupt t)) ∧
      (s.lifecycle.phase = .terminated →
        ∀ more, ((k.serveAll more).run s).state.lifecycle.phase = .terminated) := by
  intro k s
  have hk : k.Staffed := played_staffed w settings topology hasFactory
  have hs : s.lifecycle.inFlight = none :=
    ((Ready.fresh world identity ownIdentity).serveAll hk rs).unclaimed
  exact ⟨hs, lawful hk hs, fun _ _ u h => perform_busy h u,
    (perform_unique hk k.perform).mpr rfl, serveAll_terminated⟩

end Cluster

end ServerFleet
