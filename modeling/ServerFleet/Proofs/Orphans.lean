import ServerFleet.Proofs.Escalation
import ServerFleet.Proofs.Handle

/-!
# No instance is left running

The history of a cluster is `Tidy` if every command in it was for an instance of
the fleet, sent where the dispatcher's identity says, and if it is quelled unless
the cluster is started. Every transition keeps it so (`Tidy.perform`): a start can
only fail before its first command, and a stop that changes the phase was carried
out to its end.

Hence whenever a cluster is not started, the last call that started an instance is
followed by one that stops it and one that kills it (`Cluster.no_orphan`), whatever
was asked of the cluster before and whatever failed.
-/

namespace ServerFleet

open Act (Agree Leads)

variable {σ α β : Type}

/-! ## What a run issues -/

/-- An action that calls no collaborator and leaves the identities alone. -/
def Hushed (a : Act (Session σ) α) : Prop :=
  ∀ v, Act.Keeps (fun s => s.views = v) (fun e => e.controlCall? = none) a

theorem Hushed.bind {a : Act (Session σ) α} {f : α → Act (Session σ) β} (h : Hushed a)
    (hf : ∀ x, Hushed (f x)) : Hushed (a >>= f) := fun v => (h v).bind fun x => hf x v

theorem Hushed.pure (x : α) : Hushed (Pure.pure x : Act (Session σ) α) :=
  fun _ => Act.keeps_pure x

/-- The calls of a run from `s` are those of some steps, and the identities may have
grown. -/
structure Issues (settings : Settings) (s : Session σ) (r : Ran (Session σ) α)
    (steps : List Step) : Prop where
  calls : r.events.filterMap Event.controlCall? = steps.filterMap (Step.call? settings)
  grows : s.views.Grows r.state.views

theorem Hushed.issues {settings : Settings} {a : Act (Session σ) α} (h : Hushed a)
    (s : Session σ) : Issues settings s (a.run s) [] where
  calls := List.filterMap_eq_nil_iff.mpr (h s.views s rfl).2.2
  grows := by
    have hviews : (a.run s).state.views = s.views := (h s.views s rfl).2.1
    rw [hviews]
    exact .refl _

namespace Issues

variable {settings : Settings} {s : Session σ} {steps : List Step}

/-- What is hushed issues nothing more. -/
theorem bind_hushed {a : Act (Session σ) α} {f : α → Act (Session σ) β}
    (h : Issues settings s (a.run s) steps) (hf : ∀ x, Hushed (f x)) :
    Issues settings s ((a >>= f).run s) steps ∧
      ((a >>= f).run s).state.views = (a.run s).state.views := by
  rw [Act.run_bind]
  generalize a.run s = r at h
  obtain ⟨e | x, s', es⟩ := r
  · exact ⟨⟨h.calls, h.grows⟩, rfl⟩
  · have hviews : ((f x).run s').state.views = s'.views := (hf x s'.views s' rfl).2.1
    have hcalls : ((f x).run s').events.filterMap Event.controlCall? = [] :=
      List.filterMap_eq_nil_iff.mpr (hf x s'.views s' rfl).2.2
    refine ⟨⟨?_, ?_⟩, hviews⟩
    · show (es ++ ((f x).run s').events).filterMap Event.controlCall? = _
      rw [List.filterMap_append, hcalls]
      exact (List.append_nil _).trans h.calls
    · show s.views.Grows ((f x).run s').state.views
      rw [hviews]
      exact h.grows

end Issues

/-- The steps that an action issues if it follows a plan. -/
theorem FollowsAt.issues {settings : Settings} {topology : Topology} {w : World σ}
    {reenter : Transition → Act (Session σ) Unit} {V : ControlCall → Except Failure Unit → Prop}
    {hw : ∀ c s, (w.control c s).Meets (fun t => Quiet (reenter t)) (V c)}
    {s : Session σ} {a : Act (Session σ) α} {p : Views → List Step} {Q : List Entry → α → Prop}
    (h : FollowsAt (calls hw : Account (Crew.direct settings topology w reenter)) s a p Q) :
    ∃ steps, Issues settings s (a.run s) steps ∧
      (∀ n, (a.run s).state.views.Grows n → steps <+: p n) ∧
      (∀ x, (a.run s).result = .ok x → ∀ n, (a.run s).state.views.Grows n → steps = p n) ∧
      ∀ e, (a.run s).result = .error e →
        ∃ before step, steps = before ++ [step] ∧ ¬ step.Handles e := by
  obtain ⟨l, hfit, -, hg, hk⟩ := h
  refine ⟨l.map Entry.step, ⟨hfit.1, hg⟩, ?_⟩
  generalize (a.run s).result = res at hk
  cases hk with
  | done steps result =>
    exact ⟨fun n hn => ⟨[], by rw [List.append_nil, steps n hn]⟩, fun _ _ => steps, nofun⟩
  | @broken e step before steps last escapes =>
    refine ⟨steps, nofun, ?_⟩
    rintro _ ⟨rfl⟩
    exact ⟨before.map Entry.step, step, by simp [last], escapes⟩

/-! ## Quiet parts of transitions -/

theorem Quiet.hushed {a : Act (Session σ) α} (h : Quiet a) : Hushed a := by
  intro v s hs
  obtain ⟨heq, ⟨-, hviews⟩, hev⟩ := h s.poolOpen v s ⟨rfl, hs⟩
  exact ⟨heq, hviews, hev⟩

theorem Session.setPhase_hushed (w : World σ) (phase : Phase) (transition : String) :
    Hushed (Session.setPhase w Cluster.refuse phase transition) := by
  refine Quiet.hushed fun isOpen v => Leads.agree ?_
  refine (Session.setPhase_leads (J := fun s => s.poolOpen = isOpen ∧ s.views = v) w
    (fun _ h => h) (fun r => ?_) (fun _ _ _ _ => rfl) (fun _ _ => rfl) transition).imp
    (fun _ _ h => h) nofun
  exact Session.react_quiet (Reaction.meets_of_forall Cluster.refuse_quiet r) isOpen v

theorem Cluster.conclude_hushed (w : World σ) (phase : Phase) (t : Transition) (report : Report) :
    Hushed (conclude w phase t report) :=
  (Session.setPhase_hushed w phase t.name).bind fun _ => .pure _

theorem Cluster.releaseContext_hushed (k : Cluster σ) : Hushed k.releaseContext := fun _ =>
  releaseContext_keeps (fun _ _ h => h) (fun _ h => h) (fun _ _ => rfl) fun _ => rfl

theorem Dispatch.close_hushed : Hushed (Dispatch.close : Act (Session σ) Unit) := by
  intro v
  refine Act.keeps_modify ?_
  exact fun _ h => h

theorem Cluster.closeDown_hushed (k : Cluster σ) : Hushed k.closeDown :=
  (Cluster.releaseContext_hushed k).bind fun _ => Dispatch.close_hushed.bind fun _ =>
    (Session.setPhase_hushed k.world _ _).bind fun _ => .pure _

/-- A start after which the cluster is not started failed before it was concluded, and left the
phase alone. -/
theorem Cluster.start_failed {k : Cluster σ} (hk : k.Staffed) {s : Session σ}
    (hs : s.lifecycle.inFlight = some Transition.start.name)
    (h : ((k.body .start).run s).state.lifecycle.phase ≠ .started) :
    ((k.body .start).run s).state.lifecycle.phase = s.lifecycle.phase ∧
      ∃ e, ((do
        let _ ← Sequence.setGoal (k.crew refuse) Sequence.normalGoal
        Sequence.startAll (k.crew refuse)).run s).result = .error e := by
  cases hresult : ((k.body .start).run s).result with
  | ok report => exact absurd (congrArg Standing.phase (body_ok hk hs hresult)) h
  | error e =>
    obtain hat | ⟨⟨⟩, -⟩ := body_error hk hs hresult
    refine ⟨congrArg Standing.phase hat, ?_⟩
    rw [body_start] at hresult
    cases hfirst : ((do
      let _ ← Sequence.setGoal (k.crew refuse) Sequence.normalGoal
      Sequence.startAll (k.crew refuse)).run s).result with
    | error e' => exact ⟨e', rfl⟩
    | ok report =>
      rw [conclude_ok hfirst] at hresult
      cases hresult

/-! ## What transitions issue -/

section Transitions

variable {settings : Settings} {topology : Topology} {w : World σ}

theorem meets_any (w : World σ) (c : ControlCall) (s : σ) :
    (w.control c s).Meets (fun t => Quiet (Cluster.refuse t : Act (Session σ) Unit))
      fun _ => True :=
  Reaction.meets_of_forall Cluster.refuse_quiet _

/-- What a transition issues, from the session `s` to `s'`: nothing is started unless
the cluster is started after it, and a started cluster is stopped by nothing less than
all the steps of a stop. -/
structure Effect (p : Scope) (s s' : Session σ) (steps : List Step) : Prop where
  sends : ∀ n, s'.views.Grows n → Plan.Sends p n (fun _ => True) steps
  calm : s'.lifecycle.phase ≠ .started → ∀ step ∈ steps, ¬ step.Starts
  whole : s.lifecycle.phase = .started → s'.lifecycle.phase ≠ .started →
    ∀ n, s'.views.Grows n → steps = Plan.stopAll p n

/-- A stop, and whatever it is followed by that issues nothing. -/
theorem stopAll_effect {t : Transition} {s : Session σ} (hs : s.lifecycle.inFlight = some t.name)
    (hopen : s.poolOpen = true) {f : Report → Act (Session σ) α} (hf : ∀ x, Hushed (f x)) :
    let crew := Crew.direct settings topology w Cluster.refuse
    let r := (Sequence.stopAll crew >>= f).run s
    ∃ steps, Issues settings s r steps ∧ Effect crew.scope s r.state steps := by
  intro crew r
  obtain ⟨steps, hissues, hfirst, hdone, -⟩ :=
    (Sequence.stopAll_follows s hopen : FollowsAt (calls (meets_any w)) s
      (Sequence.stopAll crew) _ _).issues
  obtain ⟨hr, hviews⟩ := hissues.bind_hushed hf
  have hsends (n : Views) (hn : r.state.views.Grows n) :
      Plan.Sends crew.scope n (· ≠ .start) steps :=
    Plan.sends_stopAll.subset (hfirst n (hviews ▸ hn)).subset
  refine ⟨steps, hr, fun n hn => (hsends n hn).imp fun _ _ => trivial,
    fun _ => Quelled.not_starts (hsends _ (.refl _)), fun hstarted hphase n hn => ?_⟩
  cases hres : ((Sequence.stopAll crew).run s).result with
  | ok x => exact hdone x hres n (hviews ▸ hn)
  | error e =>
    -- A stop that fails leaves the phase alone.
    have hat : At s.standing ((Sequence.stopAll crew).run s).state :=
      (Sequence.stopAll_agree (At.admits s.standing t)
        (Cluster.played_staffed w settings topology false t s.standing Cluster.refuse hs
          (Cluster.refuse_rebuffs _)) s rfl).2.1
    have hstate : r.state = ((Sequence.stopAll crew).run s).state := by
      show (Act.after ((Sequence.stopAll crew).run s) f).state = _
      simp only [Act.after, hres]
    refine absurd ?_ hphase
    rw [hstate]
    exact (congrArg Standing.phase hat).trans hstarted

/-- A start: it can only fail before its first command. -/
theorem start_effect {s : Session σ} (hs : s.lifecycle.inFlight = some Transition.start.name)
    (hopen : s.poolOpen = true) (hasFactory : Bool) :
    let k := Cluster.played w settings topology hasFactory
    let r := (k.body .start).run s
    ∃ steps, Issues settings s r steps ∧ Effect (k.crew Cluster.refuse).scope s r.state steps := by
  intro k r
  have hk : k.Staffed := Cluster.played_staffed w settings topology hasFactory
  let crew := Crew.direct settings topology w Cluster.refuse
  let first := do
    let _ ← Sequence.setGoal crew Sequence.normalGoal
    Sequence.startAll crew
  have hbody : k.body .start = first >>= Cluster.conclude w .started .start := k.body_start
  have hfollows : FollowsAt (calls (meets_any w)) s first _ _ :=
    Sequence.setGoal_startAll_follows s hopen
  obtain ⟨steps, hissues, hfirst, -, hbroken⟩ := hfollows.issues
  obtain ⟨hr, hviews⟩ := hissues.bind_hushed (Cluster.conclude_hushed w .started .start)
  rw [← hbody] at hr hviews
  have hfailed (h : r.state.lifecycle.phase ≠ .started) :
      r.state.lifecycle.phase = s.lifecycle.phase ∧ ∃ e, (first.run s).result = .error e :=
    Cluster.start_failed hk hs h
  refine ⟨steps, hr, fun n hn => ?_, fun h => ?_, fun hs h => ?_⟩
  · refine Plan.Sends.subset ?_ (hfirst n (hviews ▸ hn)).subset
    exact (Plan.sends_of_others (by simp)).append (Plan.sends_startAll.imp fun _ _ => trivial)
  · obtain ⟨-, e, he⟩ := hfailed h
    obtain ⟨before, step, rfl, hescapes⟩ := hbroken e he
    have hpre := hfirst _ (.refl _)
    -- The step that failed is no command, hence the first of all.
    cases before with
    | nil =>
      intro step' hm hst
      obtain rfl := List.mem_singleton.mp hm
      cases step' with
      | dispatch => exact hescapes trivial
      | _ => exact hst
    | cons goal before =>
      obtain ⟨-, hpre⟩ := List.cons_prefix_cons.mp hpre
      have hmem := hpre.subset (List.mem_append_right before (List.mem_singleton_self step))
      obtain ⟨_, _, _, rfl⟩ := Plan.startAll_dispatches hmem
      exact (hescapes trivial).elim
  · exact absurd ((hfailed h).1.trans hs) h

variable (settings topology w) in
/-- What the body of any transition issues. -/
theorem body_effect {t : Transition} {s : Session σ} (hs : s.lifecycle.inFlight = some t.name)
    (hopen : s.poolOpen = true) (hasFactory : Bool) :
    let k := Cluster.played w settings topology hasFactory
    let r := (k.body t).run s
    ∃ steps, Issues settings s r steps ∧ Effect (k.crew Cluster.refuse).scope s r.state steps := by
  intro k r
  cases t with
  | start => exact start_effect hs hopen hasFactory
  | stop =>
    exact stopAll_effect hs hopen (Cluster.conclude_hushed w .stopped .stop)
  | terminate =>
    have hrun : r = Act.after (k.haltFirst.run s) fun _ => k.closeDown := by
      show (k.body .terminate).run s = _
      rw [Cluster.body_terminate, Act.run_bind]
    have hlast : Hushed k.closeDown := Cluster.closeDown_hushed k
    by_cases hp : s.lifecycle.phase = .started
    · rw [hrun, Cluster.haltFirst_run_of_started k hp, ← Act.run_bind, bind_assoc]
      exact stopAll_effect hs hopen fun _ => (Session.setPhase_hushed w _ _).bind fun _ => hlast
    · have hclose : r = k.closeDown.run s := by
        rw [hrun, Cluster.haltFirst_run_of_not_started k hp]
        rfl
      rw [hclose]
      exact ⟨[], hlast.issues s, fun _ _ => Plan.sends_of_others (by simp),
        fun _ _ h => absurd h List.not_mem_nil, fun h => absurd h hp⟩

end Transitions

/-! ## Runs -/

/-- What is kept of the events so far and the history behind them. -/
structure Tidy (k : Cluster σ) (s : Session σ) (es : List Event) (history : List Step) :
    Prop where
  calls : es.filterMap Event.controlCall? = history.filterMap (Step.call? k.settings)
  /-- The history is of the fleet, and went where the identities say from now on. -/
  sends : ∀ n, s.views.Grows n →
    Plan.Sends (k.crew Cluster.refuse).scope n (fun _ => True) history
  quelled : s.lifecycle.phase ≠ .started → Quelled history
  ready : Cluster.Ready s

namespace Tidy

variable {settings : Settings} {topology : Topology} {w : World σ} {hasFactory : Bool}
  {s : Session σ} {es : List Event} {history : List Step}

theorem perform (h : Tidy (Cluster.played w settings topology hasFactory) s es history)
    (t : Transition) :
    let k := Cluster.played w settings topology hasFactory
    let r := (k.perform t).run s
    ∃ steps, Tidy k r.state (es ++ r.events) (history ++ steps) := by
  intro k r
  have hk : k.Staffed := Cluster.played_staffed w settings topology hasFactory
  by_cases hp : s.lifecycle.phase = .terminated
  · have hrun : r = ⟨_, s, []⟩ := Cluster.perform_terminated hp t
    refine ⟨[], ?_⟩
    rw [hrun, List.append_nil, List.append_nil]
    exact h
  · have hclaimed : (s.claimed t.name).lifecycle.inFlight = some t.name := rfl
    obtain ⟨steps, hissues, heffect⟩ :=
      body_effect settings topology w hclaimed (h.ready.isOpen hp) hasFactory
    have hrun : r = _ := Session.during_run ⟨hp, h.ready.unclaimed⟩ (k.body t)
    have hviews : s.views.Grows r.state.views := by
      rw [hrun]
      exact hissues.grows
    have heffect : Effect (k.crew Cluster.refuse).scope s r.state steps := by
      rw [hrun]
      exact ⟨heffect.sends, heffect.calm, heffect.whole⟩
    have hcalls : r.events.filterMap Event.controlCall? =
        steps.filterMap (Step.call? settings) := by
      rw [hrun]
      exact hissues.calls
    refine ⟨steps, ?_, fun n hn => ?_, fun hphase => ?_, h.ready.perform hk t⟩
    · rw [List.filterMap_append, List.filterMap_append, h.calls, hcalls]
      rfl
    · exact (h.sends n (hviews.trans hn)).append (heffect.sends n hn)
    · by_cases hs : s.lifecycle.phase = .started
      · rw [heffect.whole hs hphase _ (.refl _)]
        exact Quelled.stopAll (h.sends _ hviews)
      · exact (h.quelled hs).append (heffect.calm hphase)

theorem serve (h : Tidy (Cluster.played w settings topology hasFactory) s es history)
    (request : Request) :
    let k := Cluster.played w settings topology hasFactory
    let r := (k.serve request).run s
    ∃ steps, Tidy k r.state (es ++ r.events) (history ++ steps) := by
  intro k r
  by_cases ht : ∃ t, request = .transition t
  · obtain ⟨t, rfl⟩ := ht
    have hrun : r = _ := Cluster.interrupt_run k t s
    rw [hrun]
    exact h.perform t
  · -- Nothing that is watched has to do with the context or the callbacks.
    have hk : k.Staffed := Cluster.played_staffed w settings topology hasFactory
    obtain ⟨-, ⟨hphase, -, -, hviews⟩, hev⟩ :=
      Cluster.serve_aside (k := k) (fun t he => ht ⟨t, he⟩) s.lifecycle.phase
        s.lifecycle.inFlight s.poolOpen s.views s ⟨rfl, rfl, rfl, rfl⟩
    refine ⟨[], ?_, ?_, ?_, h.ready.serve hk request⟩
    · rw [List.filterMap_append, List.filterMap_eq_nil_iff.mpr hev, List.append_nil,
        List.append_nil, h.calls]
    · rw [hviews, List.append_nil]
      exact h.sends
    · rw [hphase, List.append_nil]
      exact h.quelled

end Tidy

namespace Cluster

/-- After any requests to a cluster, whatever its collaborators and callbacks do and
whichever of them fail: if it is not started, then after the last call that started an
instance came one that stops it and after that one that kills it. -/
theorem no_orphan (w : World σ) (settings : Settings) (topology : Topology) (hasFactory : Bool)
    (world : σ) (identity : Identity) (ownIdentity : Option Identity) (rs : List Request) :
    let k := played w settings topology hasFactory
    let r := (k.serveAll rs).run (Session.fresh world identity ownIdentity)
    let calls := r.events.filterMap Event.controlCall?
    r.state.lifecycle.phase ≠ .started →
      ∀ (target : Instance) (isLocal : Bool) (issue : Command → ControlCall),
        (∀ c, Dispatch.callFor settings isLocal target c = .ok (issue c)) →
        issue .start ∈ calls →
        ∃ before after, calls = before ++ issue .start :: after ∧ issue .start ∉ after ∧
          [issue .stop, issue .kill].Sublist after := by
  intro k r calls hphase target isLocal issue hissue hmem
  have hfresh : ∃ history, Tidy k (Session.fresh world identity ownIdentity) [] history :=
    ⟨[], rfl, fun _ _ => Plan.sends_of_others (by simp), fun _ => .nil,
      .fresh world identity ownIdentity⟩
  obtain ⟨history, htidy⟩ :=
    serveAll_invariant (P := fun s es => ∃ history, Tidy k s es history) hfresh
      (fun request _ _ ⟨history, h⟩ =>
        (h.serve request).imp' (history ++ ·) fun _ h => h) rs
  rw [List.nil_append] at htidy
  have hcalls : calls = history.filterMap (Step.call? settings) := htidy.calls
  rw [hcalls] at hmem ⊢
  exact (htidy.quelled hphase).calls hissue hmem

/-- A worker whose start failed is stopped and killed again, though every call fails. -/
theorem no_orphan_adverse :
    let k := played .adverse .twoWorkers ⟨["a"], [], "a", [], []⟩ false
    let r := (k.serveAll [.transition .start, .transition .stop]).run
      (Session.fresh 0 (.pinned [some "a"]) none)
    let calls := r.events.filterMap Event.controlCall?
    let issue (c : Command) : ControlCall :=
      .runLocal ["sudo", "-n", "svc", "tserver", c.name] [("NR", "1")] none
    r.state.lifecycle.phase = .stopped ∧ issue .start ∈ calls ∧
      ∃ before after, calls = before ++ issue .start :: after ∧ issue .start ∉ after ∧
        [issue .stop, issue .kill].Sublist after := by
  have h := no_orphan .adverse .twoWorkers ⟨["a"], [], "a", [], []⟩ false 0
    (.pinned [some "a"]) none [.transition .start, .transition .stop]
  revert h
  dsimp only
  generalize hr : Act.run (serveAll _ _) _ = r
  have hphase : r.state.lifecycle.phase = .stopped := by
    rw [← hr]
    decide +kernel
  have hany : (r.events.filterMap Event.controlCall?).any (fun
      | .runLocal argv additions limit => argv = ["sudo", "-n", "svc", "tserver", "start"] &&
        additions = [("NR", "1")] && limit.isNone
      | _ => false) = true := by
    rw [← hr]
    decide +kernel
  clear hr
  intro h
  let issue (c : Command) : ControlCall :=
    .runLocal ["sudo", "-n", "svc", "tserver", c.name] [("NR", "1")] none
  have hissue (c : Command) :
      Dispatch.callFor .twoWorkers true ⟨.worker, "a", 1, true⟩ c = .ok (issue c) := by
    cases c <;> exact Step.callFor_eq Settings.twoWorkers_launcher Settings.twoWorkers_script
      (.dispatch ⟨.worker, "a", 1, true⟩ _ true)
  have hstart : issue .start ∈ r.events.filterMap Event.controlCall? := by
    obtain ⟨c, hc, h⟩ := List.any_eq_true.mp hany
    cases c with
    | runLocal argv additions limit =>
      simp only [Bool.and_eq_true, decide_eq_true_eq, Option.isNone_iff_eq_none] at h
      obtain ⟨⟨rfl, rfl⟩, rfl⟩ := h
      exact hc
    | _ => cases h
  have hstopped : r.state.lifecycle.phase ≠ .started := by
    rw [hphase]
    decide
  exact ⟨hphase, hstart, h hstopped ⟨.worker, "a", 1, true⟩ true issue hissue hstart⟩

end Cluster

end ServerFleet
