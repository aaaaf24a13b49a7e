import ServerFleet.Proofs.Dealings

/-!
# A command for a role on some hosts

A command for a role is carried out for every instance on the hosts that are given, one
call for each, in the order of the hosts and their instances, whichever of the calls fail
(`Dispatch.run_exact`). The call goes to this machine or to the host as the dispatcher's
identity says of the host, and its outcome tells what came of it (`Outcome.Tells`).
-/

namespace ServerFleet

/-! ## Outcomes of steps -/

/-- The command that a step is, with its instance and whether that is on this machine. -/
def Step.dispatched? : Step → Option (Instance × Command × Bool)
  | dispatch target command isLocal => some (target, command, isLocal)
  | _ => none

def Outcome.dispatched (o : Outcome) : Instance × Command × Bool :=
  (o.target, o.command, o.isLocal)

theorem Entry.outcome?_dispatched (e : Entry) :
    e.outcome?.map Outcome.dispatched = e.step.dispatched? := by
  obtain ⟨step, result⟩ := e
  cases step <;> rfl

/-- The outcomes of a ledger are those of its commands. -/
theorem Ledger.outcomes_dispatched (l : List Entry) :
    (l.filterMap Entry.outcome?).map Outcome.dispatched =
      (l.map Entry.step).filterMap Step.dispatched? := by
  rw [List.map_filterMap, List.filterMap_map]
  exact congrArg (List.filterMap · l) (funext Entry.outcome?_dispatched)

/-- An outcome tells of a call, where `words` are those of the launcher and of the service
script. -/
structure Outcome.Tells (settings : Settings) (words : List String) (o : Outcome)
    (d : Deal) : Prop where
  call : d.call = o.call settings words
  isOk : o.isOk = d.isOk
  /-- What the call failed with is the cause of the failure that is reported, whose context
  says what was called for. -/
  failure : ∀ e, d.result = .error e → ∃ f, o.failure = some f ∧
    f = .dispatch o.target o.command o.isLocal e ∧ f.kind = .reported .dispatch ∧
    f.causeKind? = some e.kind ∧
    f.context = [("role", .text o.target.role.name), ("host", .text o.target.host),
      ("instance", .int o.target.index), ("command", .text o.command.name),
      ("local", .bool o.isLocal)]

section

variable (settings : Settings) (words : List String)

/-- The outcomes of some commands tell of their calls, one by one. -/
theorem Ledger.outcomes_tell {l : List Entry} (h : ∀ e ∈ l, e.step.dispatched?.isSome) :
    List.Forall₂ (Outcome.Tells settings words) (l.filterMap Entry.outcome?)
      (l.map (Entry.deal settings words)) := by
  induction l with
  | nil => exact .nil
  | cons e l ih =>
    obtain ⟨step, result⟩ := e
    have hstep : step.dispatched?.isSome := h _ (List.mem_cons_self ..)
    have hrest := ih fun e he => h e (List.mem_cons_of_mem _ he)
    cases step with
    | dispatch target command isLocal =>
      rw [List.filterMap_cons, List.map_cons]
      refine .cons ?_ hrest
      cases result with
      | ok _ => exact ⟨rfl, rfl, fun e he => by cases he⟩
      | error e =>
        refine ⟨rfl, rfl, fun e' he => ?_⟩
        obtain rfl := Except.error.inj he
        exact ⟨_, rfl, rfl, rfl, rfl, rfl⟩
    | request r | wait seconds | purge roles => cases hstep

end

namespace Plan

variable (p : Scope) (v : Views)

theorem dispatched_tell (c : Command) (role : Role) (hosts : List String) :
    (tell p v c role hosts).filterMap Step.dispatched? = hosts.flatMap fun host =>
      (instances p.workersPerHost role host).map (·, c, v.dispatcher.knows host) := by
  rw [tell, List.filterMap_flatMap]
  refine congrArg (List.flatMap · hosts) (funext fun host => ?_)
  rw [List.filterMap_map, ← List.filterMap_eq_map]
  rfl

end Plan

/-! ## Running a command -/

section

variable {σ : Type} {settings : Settings} {w : World σ}
  {reenter : Transition → Act (Session σ) Unit} {launcher script : List String}

/-- A command for a role on some hosts does not fail. It makes one call for every instance,
in order, to this machine or to the host as the identity says of the host from then on, and
there is one outcome for each call, which tells of it. -/
theorem Dispatch.run_exact (hl : wordsOf settings.launcher = .ok launcher)
    (hs : wordsOf settings.serviceScript = .ok script) (hcount : 1 ≤ settings.workersPerHost)
    (hw : ∀ c s, (w.control c s).Meets (fun t => Quiet (reenter t)) fun _ => True)
    (role : Role) (hosts : List String) (command : Command) (s : Session σ)
    (hopen : s.poolOpen = true) :
    let r := (run settings w (.direct w reenter) role hosts command).run s
    ∃ (outcomes : List Outcome) (ds : List Deal) (here : String → Bool),
      r.result = .ok outcomes ∧
      (∀ host ∈ hosts, r.state.identity.Says w host (here host)) ∧
      outcomes.map Outcome.dispatched = (hosts.flatMap fun host =>
        (Plan.instances settings.workersPerHost role host).map (·, command, here host)) ∧
      List.Forall₂ (Outcome.Tells settings (launcher ++ script)) outcomes ds ∧
      Dealings w reenter s ds r.state ∧
      r.events.filterMap Event.controlCall? = ds.map Deal.call := by
  intro r
  -- The topology has no part in it.
  let crew := Crew.direct settings ⟨[], [], "", [], []⟩ w reenter
  have hat : FollowsAt (dealings hl hs hw : Account crew) s
      (run crew.settings crew.world crew.collaborators role hosts command)
      (fun n => Plan.tell crew.scope n command role hosts) Ledger.Commands :=
    run_follows role hosts command s hopen
  have hdispatch {n : Views} {step : Step} (h : step ∈ Plan.tell crew.scope n command role hosts) :
      ∃ target isLocal, step = .dispatch target command isLocal := by
    obtain ⟨host, -, h⟩ := List.mem_flatMap.mp h
    obtain ⟨target, -, rfl⟩ := List.mem_map.mp h
    exact ⟨target, _, rfl⟩
  obtain ⟨l, outcomes, hr, ⟨hcalls, hdeals⟩, hcommands, hsteps⟩ :=
    hat.never_fails fun l es s' _ step e _ hplan => by
      obtain ⟨n, hmem⟩ := hplan
      obtain ⟨target, isLocal, rfl⟩ := hdispatch hmem
      trivial
  have hknows (host : String) (hhost : host ∈ hosts) (j : Identity)
      (hj : r.state.identity.Grows j) : j.knows host = r.state.identity.knows host := by
    have hplan : Plan.tell crew.scope ⟨j, r.state.views.sequence⟩ command role hosts =
        Plan.tell crew.scope r.state.views command role hosts :=
      hat.plan_eq hr ⟨hj, .refl _⟩
    obtain ⟨target, htarget⟩ := Plan.exists_mem_instances hcount role host
    have hmem : Step.dispatch target command (r.state.identity.knows host) ∈
        Plan.tell crew.scope r.state.views command role hosts :=
      List.mem_flatMap.mpr ⟨host, hhost, List.mem_map.mpr ⟨target, htarget, rfl⟩⟩
    rw [← hplan] at hmem
    obtain ⟨-, hlocal, -⟩ := Plan.mem_tell _ _ hmem
    rw [hlocal, Plan.host_of_mem_instances htarget]
  refine ⟨outcomes, l.map (Entry.deal settings (launcher ++ script)), r.state.identity.knows, hr,
    fun host hhost => Identity.says_of_grows w (hknows host hhost), ?_, ?_, hdeals, ?_⟩
  · rw [← hcommands.outcomes_eq, Ledger.outcomes_dispatched, hsteps, Plan.dispatched_tell]
    rfl
  · rw [← hcommands.outcomes_eq]
    refine Ledger.outcomes_tell settings (launcher ++ script) fun e he => ?_
    have hmem : e.step ∈ Plan.tell crew.scope _ command role hosts :=
      hsteps ▸ List.mem_map_of_mem he
    obtain ⟨target, isLocal, hstep⟩ := hdispatch hmem
    rw [hstep]
    rfl
  · have hevents : r.events.filterMap Event.controlCall? =
        (l.map Entry.step).filterMap (Step.call? settings) := hcalls.1
    rw [hevents, Step.filterMap_call? hl hs, List.map_map, List.map_map]
    rfl

end

/-- A world in which every other call fails, on a machine that is called "a". -/
def World.wavering : World Nat where
  control _ n := .finish (if n % 2 = 0 then .error (.raised .runtime "down" []) else .ok ()) (n + 1)
  process _ _ _ n := (.timedOut, n)
  connect _ _ n := (.error .unknownHome, n)
  runOver _ _ _ n := (.timedOut, n)
  machine n := (⟨.ok "a", .ok "a.b", fun _ => .ok "", .ok [], .ok []⟩, n)
  callback _ _ _ n := .finish (.ok ()) n
  buildContext n := (⟨"", .error .unknownHome⟩, n)
  closeContext _ n := (.error .unknownHome, n)
  homeOf _ := none

theorem World.wavering_meets (c : ControlCall) (n : Nat) : (World.wavering.control c n).Meets
    (fun t => Quiet (Cluster.refuse t : Act (Session Nat) Unit)) fun _ => True := trivial

/-- A host that is named twice, by two names of this machine, is told to stop twice. -/
theorem Dispatch.run_exact_wavering :
    let s : Session Nat := { world := 0 }
    let r := (run Settings.twoWorkers .wavering (.direct .wavering Cluster.refuse) .worker
      [" A ", "b", "a.B"] .stop).run s
    (∃ (outcomes : List Outcome) (ds : List Deal) (here : String → Bool),
      r.result = .ok outcomes ∧
      (∀ host ∈ [" A ", "b", "a.B"], r.state.identity.Says .wavering host (here host)) ∧
      outcomes.map Outcome.dispatched = ([" A ", "b", "a.B"].flatMap fun host =>
        (Plan.instances Settings.twoWorkers.workersPerHost .worker host).map
          (·, .stop, here host)) ∧
      List.Forall₂ (Outcome.Tells Settings.twoWorkers (["sudo", "-n"] ++ ["svc"])) outcomes ds ∧
      Dealings .wavering Cluster.refuse s ds r.state ∧
      r.events.filterMap Event.controlCall? = ds.map Deal.call) ∧
    (r.result.toOption.map fun os => os.map fun o =>
      (o.target.host, o.target.index, o.isLocal, o.isOk)) =
      some [(" A ", 1, true, false), (" A ", 2, true, true), ("b", 1, false, false),
        ("b", 2, false, true), ("a.B", 1, true, false), ("a.B", 2, true, true)] := by
  intro s r
  refine ⟨run_exact Settings.twoWorkers_launcher Settings.twoWorkers_script (by decide)
    World.wavering_meets .worker [" A ", "b", "a.B"] .stop s rfl, ?_⟩
  decide +kernel

end ServerFleet
