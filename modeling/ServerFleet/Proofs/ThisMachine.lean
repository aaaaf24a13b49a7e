import ServerFleet.Proofs.FanOut

/-!
# Operations on this machine

To start or to stop the roles of this machine leaves the other machines alone, as long as a
sequence looks for its hosts by the same names by which calls are sent
(`Sequence.here_stays_here`). For every role there is one host, the first one that is this
machine, that all commands for the role go to (`Sequence.StaysHere`).

A host is looked for again for every role and every command, and the dispatcher asks once
more. That all of these answers agree is read off the plan, which is settled when the operation
is done (`FollowsAt.plan_eq`).
-/

namespace ServerFleet

variable {σ : Type}

/-! ## The first host that is this machine -/

/-- The first host among some that an identity says is this machine, whatever becomes of the
machine. -/
def Identity.FirstLocal (w : World σ) (i : Identity) (hosts : List String) : Option String → Prop
  | some host => i.Says w host true ∧
    ∃ before after, hosts = before ++ host :: after ∧ ∀ other ∈ before, i.Says w other false
  | none => ∀ host ∈ hosts, i.Says w host false

/-- The first host that is known to be this machine, and can only come to be known as such. -/
theorem Identity.firstLocal_of_grows (w : World σ) {i : Identity} {hosts : List String}
    (h : ∀ j, i.Grows j → hosts.find? j.knows = hosts.find? i.knows) :
    i.FirstLocal w hosts (hosts.find? i.knows) := by
  cases hfind : hosts.find? i.knows with
  | none =>
    intro host hhost
    refine says_of_grows w fun j hj => ?_
    have hnone : hosts.find? j.knows = none := (h j hj).trans hfind
    simpa using List.find?_eq_none.mp hnone host hhost
  | some host =>
    obtain ⟨hknows, before, after, rfl, hbefore⟩ := List.find?_eq_some_iff_append.mp hfind
    have hsome (j : Identity) (hj : i.Grows j) :
        (before ++ host :: after).find? j.knows = some host := (h j hj).trans hfind
    refine ⟨says_of_grows w fun j hj => List.find?_some (hsome j hj), before, after, rfl,
      fun other hother => says_of_grows w fun j hj => ?_⟩
    -- If one before it came to be known, that would be the host that is found.
    have hnone : before.find? j.knows = none := by
      cases hfound : before.find? j.knows with
      | none => rfl
      | some found =>
        have hfirst := hsome j hj
        rw [List.find?_append, hfound, Option.some_or, Option.some.injEq] at hfirst
        have hnot := hbefore host (hfirst ▸ List.mem_of_find?_eq_some hfound)
        rw [hknows] at hnot
        cases hnot
    simpa using List.find?_eq_none.mp hnone other hother

/-! ## Sessions that go by one identity -/

/-- Whether a sequence looks for its hosts by the names by which calls are sent. -/
def Session.Shared (s : Session σ) : Prop := s.ownIdentity = none

theorem Session.Shared.views {s : Session σ} (h : s.Shared) :
    s.views = ⟨s.identity, s.identity⟩ := by
  rw [Session.views, h, Option.getD_none]

theorem Session.Shared.asking {α : Type} {s : Session σ} (h : s.Shared) (a : Act (Vantage σ) α) :
    ((Session.asking a).run s).state.Shared := by
  rw [Session.asking, Act.run_zoom]
  exact h

theorem Session.Shared.askingOwn {α : Type} {s : Session σ} (h : s.Shared)
    (a : Act (Vantage σ) α) : ((Session.askingOwn a).run s).state.Shared := by
  rw [Session.Shared] at h
  rw [Session.askingOwn, Act.run_zoom, h]
  rfl

/-- An account that also watches that sessions go by one identity. -/
def Account.sharing {crew : Crew σ} (A : Account crew)
    (htake : ∀ s step, s.Shared → ((crew.take step).run s).state.Shared) : Account crew where
  Fits s l es s' := A.Fits s l es s' ∧ (s.Shared → s'.Shared)
  nil s := ⟨A.nil s, id⟩
  append h h' := ⟨A.append h.1 h'.1, h'.2 ∘ h.2⟩
  log s level text := ⟨A.log s level text, id⟩
  pool s step := ⟨A.pool s step, id⟩
  asking s host := ⟨A.asking s host, fun h => h.asking _⟩
  askingOwn s host := ⟨A.askingOwn s host, fun h => h.askingOwn _⟩
  take s step := ⟨A.take s step, htake s step⟩
  take_pool := A.take_pool
  take_views := A.take_views

theorem take_direct_shared {settings : Settings} {topology : Topology} {w : World σ}
    {reenter : Transition → Act (Session σ) Unit} {P : ControlCall → Except Failure Unit → Prop}
    (hw : ∀ c s, (w.control c s).Meets
      (fun t => Act.Keeps Session.Shared (fun _ => True) (reenter t)) (P c))
    (s : Session σ) (step : Step) (h : s.Shared) :
    (((Crew.direct settings topology w reenter).take step).run s).state.Shared := by
  rw [take_direct]
  cases step.callFor settings with
  | error e => exact h
  | ok c =>
    exact (Session.react_keeps (I := Session.Shared) (E := fun _ => True) (fun _ _ h => h)
      (fun _ _ h => h) (fun _ _ => trivial) (hw c s.world) s h).2.1

/-! ## Plans for this machine -/

namespace Plan

/-- The instances that commands on this machine go to, where each role has the host given. -/
def chosen (workersPerHost : Nat) (host : Role → Option String) (roles : List Role) :
    List Instance :=
  roles.flatMap fun role => (host role).toList.flatMap (instances workersPerHost role)

/-- The hosts that are chosen are known by the instances. -/
theorem mem_chosen {count : Nat} {host : Role → Option String} {roles : List Role}
    {target : Instance} (h : target ∈ chosen count host roles) :
    host target.role = some target.host := by
  obtain ⟨role, -, h⟩ := List.mem_flatMap.mp h
  obtain ⟨name, hname, h⟩ := List.mem_flatMap.mp h
  rw [role_of_mem_instances h, host_of_mem_instances h]
  exact Option.mem_toList.mp hname

theorem exists_mem_chosen {count : Nat} (hcount : 1 ≤ count) {host : Role → Option String}
    {roles : List Role} {role : Role} (hrole : role ∈ roles) {name : String}
    (hname : host role = some name) :
    ∃ target ∈ chosen count host roles, target.role = role ∧ target.host = name := by
  obtain ⟨target, htarget⟩ := exists_mem_instances hcount role name
  refine ⟨target, List.mem_flatMap.mpr ⟨role, hrole, List.mem_flatMap.mpr ⟨name, ?_, htarget⟩⟩,
    role_of_mem_instances htarget, host_of_mem_instances htarget⟩
  exact Option.mem_toList.mpr hname

/-- The same instances come from the same hosts. -/
theorem eq_of_mem_chosen {count : Nat} (hcount : 1 ≤ count) {host host' : Role → Option String}
    {roles : List Role}
    (h : ∀ target, target ∈ chosen count host roles ↔ target ∈ chosen count host' roles)
    {role : Role} (hrole : role ∈ roles) : host role = host' role := by
  refine Option.ext fun name => ⟨fun hname => ?_, fun hname => ?_⟩
  · obtain ⟨target, htarget, rfl, rfl⟩ := exists_mem_chosen hcount hrole hname
    exact mem_chosen ((h target).mp htarget)
  · obtain ⟨target, htarget, rfl, rfl⟩ := exists_mem_chosen hcount hrole hname
    exact mem_chosen ((h target).mpr htarget)

/-- Some commands in turn, each for some roles on this machine. -/
def here (p : Scope) (v : Views) (roles : List Role) (rounds : List Command) : List Step :=
  rounds.flatMap fun c => roles.flatMap (tellHere p v c)

variable (p : Scope) (i : Identity) (roles : List Role) (rounds : List Command)

/-- The commands of a plan for this machine go to this machine. -/
theorem dispatched_here : (here p ⟨i, i⟩ roles rounds).filterMap Step.dispatched? =
    rounds.flatMap fun c =>
      (chosen p.workersPerHost (localHost? p ⟨i, i⟩) roles).map (·, c, true) := by
  rw [here, List.filterMap_flatMap]
  refine congrArg (List.flatMap · rounds) (funext fun c => ?_)
  rw [chosen, List.filterMap_flatMap, List.map_flatMap]
  refine congrArg (List.flatMap · roles) (funext fun role => ?_)
  rw [tellHere]
  cases hhost : localHost? p ⟨i, i⟩ role with
  | none => rfl
  | some host =>
    have hknows : i.knows host = true := List.find?_some hhost
    rw [tellAt, dispatched_tell, List.flatMap_singleton, hknows, Option.toList_some,
      List.flatMap_singleton]

theorem mem_here {v : Views} {step : Step} (h : step ∈ here p v roles rounds) :
    ∃ target c isLocal, step = .dispatch target c isLocal := by
  obtain ⟨c, -, h⟩ := List.mem_flatMap.mp h
  obtain ⟨role, -, h⟩ := List.mem_flatMap.mp h
  rw [tellHere] at h
  cases hhost : localHost? p v role with
  | none =>
    rw [hhost] at h
    cases h
  | some host =>
    rw [hhost] at h
    obtain ⟨name, -, h⟩ := List.mem_flatMap.mp h
    obtain ⟨target, -, rfl⟩ := List.mem_map.mp h
    exact ⟨target, c, _, rfl⟩

/-- Identities by which the same commands are given on this machine find the same hosts
there. -/
theorem localHost?_eq_of_here (hcount : 1 ≤ p.workersPerHost) {j : Identity}
    (hrounds : rounds ≠ []) (h : (here p ⟨j, j⟩ roles rounds).filterMap Step.dispatched? =
      (here p ⟨i, i⟩ roles rounds).filterMap Step.dispatched?)
    {role : Role} (hrole : role ∈ roles) :
    localHost? p ⟨j, j⟩ role = localHost? p ⟨i, i⟩ role := by
  obtain ⟨c, hc⟩ := List.exists_mem_of_ne_nil rounds hrounds
  have hmem (k : Identity) (target : Instance) :
      target ∈ chosen p.workersPerHost (localHost? p ⟨k, k⟩) roles ↔
        (target, c, true) ∈ (here p ⟨k, k⟩ roles rounds).filterMap Step.dispatched? := by
    simp [dispatched_here, hc]
  exact eq_of_mem_chosen hcount (fun target => by rw [hmem, hmem, h]) hrole

end Plan

/-! ## The calls of outcomes -/

/-- The call that an outcome is of, unless it could not be made up. -/
def Outcome.call? (settings : Settings) (o : Outcome) : Option ControlCall :=
  Step.call? settings (.dispatch o.target o.command o.isLocal)

theorem Outcome.ne_runRemote {settings : Settings} {o : Outcome} (h : o.isLocal = true)
    (host line : String) : o.call? settings ≠ some (.runRemote host line) := by
  rw [call?, Step.call?, Step.callFor, Dispatch.callFor, if_pos h]
  cases Dispatch.serviceWords settings o.target o.command with
  | error e => exact fun h => by cases h
  | ok words => exact fun h => by cases h

/-- What is dispatched as on this machine has outcomes that say so. -/
theorem Outcome.isLocal_of_dispatched {outcomes : List Outcome} {rounds : List Command}
    {targets : List Instance} (h : outcomes.map Outcome.dispatched =
      rounds.flatMap fun c => targets.map (·, c, true)) {o : Outcome} (ho : o ∈ outcomes) :
    o.isLocal = true := by
  have hmem : o.dispatched ∈ outcomes.map Outcome.dispatched := List.mem_map_of_mem ho
  rw [h] at hmem
  obtain ⟨c, -, hmem⟩ := List.mem_flatMap.mp hmem
  obtain ⟨target, -, heq⟩ := List.mem_map.mp hmem
  exact congrArg (·.2.2) heq.symm

/-- Requests, and calls on this machine, call no other machine. -/
theorem Outcome.runRemote_not_mem {settings : Settings} {outcomes : List Outcome}
    (h : ∀ o ∈ outcomes, o.isLocal = true) (requests : List AdminRequest) (host line : String) :
    .runRemote host line ∉
      requests.map .admin ++ outcomes.filterMap (Outcome.call? settings) := by
  intro hcall
  rcases List.mem_append.mp hcall with hcall | hcall
  · obtain ⟨request, -, hrequest⟩ := List.mem_map.mp hcall
    cases hrequest
  · obtain ⟨o, ho, hcall⟩ := List.mem_filterMap.mp hcall
    exact Outcome.ne_runRemote (h o ho) host line hcall

namespace Ledger

variable (settings : Settings)

theorem calls_of_requests {l : List Entry} {requests : List AdminRequest}
    (h : l.map Entry.step = requests.map .request) :
    (l.map Entry.step).filterMap (Step.call? settings) = requests.map .admin ∧
      l.filterMap Entry.outcome? = [] := by
  constructor
  · rw [h, List.filterMap_map, ← List.filterMap_eq_map]
    rfl
  · refine List.filterMap_eq_nil_iff.mpr fun ⟨step, result⟩ he => ?_
    have hstep : step ∈ l.map Entry.step := List.mem_map_of_mem he
    rw [h] at hstep
    obtain ⟨request, -, rfl⟩ := List.mem_map.mp hstep
    rfl

/-- The calls of commands are those of their outcomes. -/
theorem calls_of_commands {l : List Entry}
    (h : ∀ e ∈ l, ∃ target c isLocal, e.step = .dispatch target c isLocal) :
    (l.map Entry.step).filterMap (Step.call? settings) =
      (l.filterMap Entry.outcome?).filterMap (Outcome.call? settings) := by
  rw [List.filterMap_map, List.filterMap_filterMap]
  refine List.filterMap_congr fun ⟨step, result⟩ he => ?_
  obtain ⟨target, c, isLocal, hstep⟩ := h _ he
  dsimp only at hstep
  rw [hstep]
  rfl

/-- The calls of requests and of commands after them. -/
theorem calls_of_append {l : List Entry} {requests : List AdminRequest} {steps : List Step}
    (hsteps : l.map Entry.step = requests.map .request ++ steps)
    (hcommands : ∀ step ∈ steps, ∃ target c isLocal, step = .dispatch target c isLocal) :
    (l.map Entry.step).filterMap (Step.call? settings) =
      requests.map .admin ++ (l.filterMap Entry.outcome?).filterMap (Outcome.call? settings) := by
  obtain ⟨asked, told, rfl, hasked, rfl⟩ := List.map_eq_append_iff.mp hsteps
  obtain ⟨hrequests, hnone⟩ := calls_of_requests settings hasked
  have htold := calls_of_commands settings fun e he => hcommands _ (List.mem_map_of_mem he)
  rw [List.map_append, List.filterMap_append, List.filterMap_append, hrequests, hnone, htold,
    List.nil_append]

end Ledger

/-! ## Starting and stopping what is on this machine -/

namespace Sequence

/-- The run of an operation made its calls on this machine alone: some commands in turn, each
for some roles, with the administrative requests made before. -/
structure StaysHere (settings : Settings) (topology : Topology) (w : World σ) (roles : List Role)
    (rounds : List Command) (r : Ran (Session σ) Report) (host : Role → Option String)
    (requests : List AdminRequest) (report : Report) : Prop where
  result : r.result = .ok report
  /-- Every role has the host that the identity finds first. -/
  first : ∀ role, r.state.identity.FirstLocal w (topology.hosts role) (host role)
  /-- Every command goes to all instances on those hosts, as on this machine. -/
  dispatched : report.outcomes.map Outcome.dispatched = rounds.flatMap fun c =>
    (Plan.chosen settings.workersPerHost host roles).map (·, c, true)
  calls : r.events.filterMap Event.controlCall? =
    requests.map .admin ++ report.outcomes.filterMap (Outcome.call? settings)
  never_remote : ∀ name line,
    .runRemote name line ∉ r.events.filterMap Event.controlCall?

variable {settings : Settings} {topology : Topology} {w : World σ}
  {reenter : Transition → Act (Session σ) Unit}

/-- An operation whose plan is for this machine stays on this machine. -/
theorem stays_here (hcount : 1 ≤ settings.workersPerHost)
    (hw : ∀ c s, (w.control c s).Meets
      (fun t => Quiet (reenter t) ∧ Act.Keeps Session.Shared (fun _ => True) (reenter t))
      fun r => ∀ request e, c = .admin request → r = .error e →
        e.kind = .reported .administrative)
    {op : Operation} {roles : List Role} {rounds : List Command} (hroles : ∀ role, role ∈ roles)
    (hrounds : rounds ≠ [])
    (requests : (Role → Option String) → List AdminRequest)
    (hplan : ∀ p v, Plan.of p v op =
      (requests (Plan.localHost? p v)).map .request ++ Plan.here p v roles rounds)
    (s : Session σ) (hopen : s.poolOpen = true) (hshared : s.Shared) :
    let r := (carryOut (Crew.direct settings topology w reenter) op).run s
    ∃ host report, StaysHere settings topology w roles rounds r host (requests host) report := by
  intro r
  let crew := Crew.direct settings topology w reenter
  have hquiet (c : ControlCall) (t : σ) : (w.control c t).Meets (fun t => Quiet (reenter t)) _ :=
    (hw c t).imp fun _ h => h.1
  have hkept (c : ControlCall) (t : σ) : (w.control c t).Meets
      (fun t => Act.Keeps Session.Shared (fun _ => True) (reenter t)) _ :=
    (hw c t).imp fun _ h => h.2
  let account : Account crew := calls hquiet
  have hat : FollowsAt (account.sharing (take_direct_shared hkept)) s
      (carryOut crew op) (fun n => Plan.of crew.scope n op) _ := carryOut_follows op s hopen
  obtain ⟨l, report, hr, ⟨⟨hcalls, -⟩, hshares⟩, hreport, hsteps⟩ :=
    hat.never_fails fun l es s' hfit step e hmem hstep => by
      obtain ⟨n, hstep⟩ := hstep
      rw [hplan] at hstep
      rcases List.mem_append.mp hstep with hstep | hstep
      · obtain ⟨request, -, rfl⟩ := List.mem_map.mp hstep
        exact hfit.1.2 _ hmem _ rfl request e rfl rfl
      · obtain ⟨target, c, isLocal, rfl⟩ := Plan.mem_here _ _ _ hstep
        trivial
  let i : Identity := r.state.identity
  have hviews : r.state.views = ⟨i, i⟩ := (hshares hshared).views
  rw [hviews] at hsteps
  have houtcomes : report.outcomes = l.filterMap Entry.outcome? :=
    congrArg Report.outcomes hreport
  have hcommands (j : Identity) : (Plan.of crew.scope ⟨j, j⟩ op).filterMap Step.dispatched? =
      (Plan.here crew.scope ⟨j, j⟩ roles rounds).filterMap Step.dispatched? := by
    rw [hplan, List.filterMap_append, List.filterMap_map]
    exact congrArg (· ++ _) (List.filterMap_eq_nil_iff.mpr fun _ _ => rfl)
  have hdispatched : report.outcomes.map Outcome.dispatched = rounds.flatMap fun c =>
      (Plan.chosen settings.workersPerHost (Plan.localHost? crew.scope ⟨i, i⟩) roles).map
        (·, c, true) := by
    rw [houtcomes, Ledger.outcomes_dispatched, hsteps, hcommands, Plan.dispatched_here]
    rfl
  have hmade : r.events.filterMap Event.controlCall? =
      (requests (Plan.localHost? crew.scope ⟨i, i⟩)).map .admin ++
        report.outcomes.filterMap (Outcome.call? settings) := by
    rw [houtcomes]
    exact hcalls.trans (Ledger.calls_of_append settings (hsteps.trans (hplan _ _))
      fun step hstep => Plan.mem_here _ _ _ hstep)
  -- The plan is settled, so that the hosts in it are.
  have hsettled (j : Identity) (hj : i.Grows j) :
      Plan.of crew.scope ⟨j, j⟩ op = Plan.of crew.scope ⟨i, i⟩ op := by
    rw [← hviews]
    exact hat.plan_eq hr (hviews ▸ ⟨hj, hj⟩)
  refine ⟨Plan.localHost? crew.scope ⟨i, i⟩, report, hr, fun role => ?_, hdispatched, hmade,
    fun name line => ?_⟩
  · refine Identity.firstLocal_of_grows w fun j hj => ?_
    refine Plan.localHost?_eq_of_here crew.scope i roles rounds hcount hrounds ?_ (hroles role)
    rw [← hcommands, ← hcommands, hsettled j hj]
  · rw [hmade]
    exact Outcome.runRemote_not_mem (fun o ho => Outcome.isLocal_of_dispatched hdispatched ho)
      _ name line

/-- To start or to stop the roles of this machine does not fail and calls no other machine,
whatever becomes of the machine's names, of the programs that are run and of the requests. For
every role the first host that is this machine is told to start, or to stop and, after every
role was told to stop, is killed. The worker's host is the one that is asked to be stopped
before. -/
theorem here_stays_here (hcount : 1 ≤ settings.workersPerHost)
    (hw : ∀ c s, (w.control c s).Meets
      (fun t => Quiet (reenter t) ∧ Act.Keeps Session.Shared (fun _ => True) (reenter t))
      fun r => ∀ request e, c = .admin request → r = .error e →
        e.kind = .reported .administrative)
    (s : Session σ) (hopen : s.poolOpen = true) (hshared : s.Shared) :
    let crew := Crew.direct settings topology w reenter
    (∃ host report, StaysHere settings topology w
      [.worker, .coordinator, .garbageCollector, .monitor, .tracer] [.start]
      ((startHere crew).run s) host [] report) ∧
    ∃ host report, StaysHere settings topology w
      [.worker, .garbageCollector, .coordinator, .monitor, .tracer] [.stop, .kill]
      ((stopHere crew).run s) host ((host .worker).toList.map .stopWorker) report := by
  intro crew
  have hstart (p : Scope) (v : Views) : Plan.of p v .startHere =
      ([] : List AdminRequest).map .request ++ Plan.here p v (.worker :: Plan.singletons)
        [.start] := by
    rw [Plan.here, List.flatMap_singleton]
    rfl
  have hstop (p : Scope) (v : Views) : Plan.of p v .stopHere =
      ((Plan.localHost? p v .worker).toList.map AdminRequest.stopWorker).map .request ++
        Plan.here p v Plan.localStops [.stop, .kill] := by
    rw [Plan.here, List.flatMap_cons, List.flatMap_singleton, ← List.append_assoc, List.map_map,
      ← Option.toList_map]
    rfl
  have hstarted (role : Role) : role ∈ .worker :: Plan.singletons := by cases role <;> decide
  have hstopped (role : Role) : role ∈ Plan.localStops := by cases role <;> decide
  exact ⟨stays_here hcount hw hstarted (by decide) (fun _ => []) hstart s hopen hshared,
    stays_here hcount hw hstopped (by decide) (fun host => (host .worker).toList.map .stopWorker)
      hstop s hopen hshared⟩

/-- A machine that does not know its names stops what is on it by its loopback names, though
the request, which asks for a transition first, and every command fail. -/
theorem here_stays_here_adverse :
    let topology : Topology := ⟨["b", " LocalHost ", "127.0.0.1"], ["127.0.0.1"], "b", [], ["b"]⟩
    let s : Session Nat := { world := 0 }
    let crew := Crew.direct Settings.twoWorkers topology .adverse Cluster.refuse
    let stopped := (stopHere crew).run s
    ((∃ host report, StaysHere Settings.twoWorkers topology .adverse
      [.worker, .coordinator, .garbageCollector, .monitor, .tracer] [.start]
      ((startHere crew).run s) host [] report) ∧
    ∃ host report, StaysHere Settings.twoWorkers topology .adverse
      [.worker, .garbageCollector, .coordinator, .monitor, .tracer] [.stop, .kill]
      stopped host ((host .worker).toList.map .stopWorker) report) ∧
    (stopped.result.toOption.map fun report => report.outcomes.map fun o =>
      (o.target.role, o.target.host, o.target.index, o.command, o.isLocal)) =
      some [(.worker, " LocalHost ", 1, .stop, true), (.worker, " LocalHost ", 2, .stop, true),
        (.coordinator, "127.0.0.1", 1, .stop, true),
        (.worker, " LocalHost ", 1, .kill, true), (.worker, " LocalHost ", 2, .kill, true),
        (.coordinator, "127.0.0.1", 1, .kill, true)] := by
  intro topology s crew stopped
  have hrefuse (t : Transition) : Quiet (Cluster.refuse t : Act (Session Nat) Unit) ∧
      Act.Keeps Session.Shared (fun _ => True) (Cluster.refuse t : Act (Session Nat) Unit) :=
    ⟨Cluster.refuse_quiet t, Cluster.refuse_keeps (fun _ _ h => h) t⟩
  refine ⟨here_stays_here (by decide) (fun c n => ?_) s rfl rfl, ?_⟩
  · cases c with
    | admin request =>
      refine ⟨hrefuse .stop, fun _ _ request e _ he => ?_⟩
      rw [← Except.error.inj he]
      rfl
    | _ => exact fun _ _ h => by cases h
  · decide +kernel

end Sequence

end ServerFleet
