import ServerFleet.Cluster
import ServerFleet.Proofs.Operations

/-!
# The calls of an operation

For a crew whose collaborators the world plays, every step is one call to a
collaborator (`Step.callFor`), and the calls of an operation are read off the
events it causes. They are those of its plan, in order, whatever becomes of them
(`Sequence.calls_eq_plan`): a collaborator may fail as its call permits it to
(`ControlCall.Permits`), and what it answers may depend on all that it was asked
before.

What a collaborator asks for while it is being called makes no calls of its own
as long as it is `Quiet`.
-/

namespace ServerFleet

/-! ## The calls of steps -/

/-- The control call for an instance, or the failure to read the words it is made
of. -/
def Dispatch.callFor (settings : Settings) (isLocal : Bool) (target : Instance)
    (command : Command) : Except Failure ControlCall :=
  if isLocal then
    (fun words => .runLocal words (exported settings target) settings.commandTimeout) <$>
      serviceWords settings target command
  else (fun line => .runRemote target.host line) <$> commandLine settings target command

namespace Step

/-- The call that a step makes, or the failure that keeps it from making one. -/
def callFor (settings : Settings) : Step → Except Failure ControlCall
  | dispatch target command isLocal => Dispatch.callFor settings isLocal target command
  | request r => .ok (.admin r)
  | wait seconds => .ok (.sleep seconds)
  | purge roles => .ok (.purge roles)

/-- The call that a step makes, where `words` are those of the launcher and of the
service script. -/
def call (settings : Settings) (words : List String) : Step → ControlCall
  | dispatch target command true =>
    .runLocal (words ++ [target.role.name, command.name]) (Dispatch.exported settings target)
      settings.commandTimeout
  | dispatch target command false =>
    .runRemote target.host (settings.instanceVariable ++ "=" ++
      Text.Shell.quote target.exported ++ " " ++
      Text.Shell.join (words ++ [target.role.name, command.name]))
  | request r => .admin r
  | wait seconds => .sleep seconds
  | purge roles => .purge roles

/-- Every step makes its call if the words of the settings can be read. -/
theorem callFor_eq {settings : Settings} {launcher script : List String}
    (hl : Dispatch.wordsOf settings.launcher = .ok launcher)
    (hs : Dispatch.wordsOf settings.serviceScript = .ok script) (step : Step) :
    step.callFor settings = .ok (step.call settings (launcher ++ script)) := by
  cases step with
  | dispatch target command isLocal =>
    have hw := Dispatch.serviceWords_eq hl hs target command
    cases isLocal with
    | false =>
      show (fun line => ControlCall.runRemote target.host line) <$>
        Dispatch.commandLine settings target command = _
      unfold Dispatch.commandLine
      rw [hw]
      rfl
    | true =>
      show (fun words => ControlCall.runLocal words (Dispatch.exported settings target)
        settings.commandTimeout) <$> Dispatch.serviceWords settings target command = _
      rw [hw]
      rfl
  | _ => rfl

/-- The call that a step makes, if it makes one. -/
def call? (settings : Settings) (step : Step) : Option ControlCall :=
  (step.callFor settings).toOption

theorem filterMap_call? {settings : Settings} {launcher script : List String}
    (hl : Dispatch.wordsOf settings.launcher = .ok launcher)
    (hs : Dispatch.wordsOf settings.serviceScript = .ok script) (steps : List Step) :
    steps.filterMap (call? settings) = steps.map (call settings (launcher ++ script)) := by
  rw [← List.filterMap_eq_map]
  refine congrArg (List.filterMap · steps) (funext fun step => ?_)
  rw [call?, callFor_eq hl hs]
  rfl

end Step

/-- How the call may end if only the failures that are expected of it occur. -/
def ControlCall.Permits : ControlCall → Except Failure Unit → Prop
  | _, .ok _ => True
  | runLocal .., .error _ | runRemote .., .error _ => True
  | admin _, .error e => e.kind = .reported .administrative
  | purge _, .error e => e.kind = .reported .cleanup
  | sleep _, .error _ => False

/-- A failure that a step's call permits is one that the step handles. -/
theorem Step.handles_of_permits {settings : Settings} {step : Step} {c : ControlCall}
    {e : Failure} (hc : step.callFor settings = .ok c) (hp : c.Permits (.error e)) :
    step.Handles e := by
  cases step with
  | dispatch target command isLocal => trivial
  | request r | wait seconds | purge roles =>
    obtain rfl := Except.ok.inj hc
    exact hp

/-! ## Answers of the world -/

/-- All that is asked for on the way satisfies `Q`, and every end satisfies `P`. -/
def Reaction.Meets {σ : Type} (Q : Transition → Prop) (P : Except Failure Unit → Prop) :
    Reaction σ → Prop
  | .finish outcome _ => P outcome
  | .reenter t _ resume => Q t ∧ ∀ failure s, (resume failure s).Meets Q P
  | .register _ rest => rest.Meets Q P

theorem Reaction.Meets.imp {σ : Type} {Q T : Transition → Prop} {P : Except Failure Unit → Prop}
    {r : Reaction σ} (h : r.Meets Q P) (hQ : ∀ t, Q t → T t) : r.Meets T P := by
  induction r with
  | finish outcome next => exact h
  | reenter t next resume ih => exact ⟨hQ t h.1, fun failure s => ih failure s (h.2 failure s)⟩
  | register callback rest ih => exact ih h

theorem Reaction.meets_of_forall {σ : Type} {Q : Transition → Prop} (hQ : ∀ t, Q t)
    (r : Reaction σ) : r.Meets Q fun _ => True := by
  induction r with
  | finish outcome next => trivial
  | reenter t next resume ih => exact ⟨hQ t, fun failure s => ih failure s⟩
  | register callback rest ih => exact ih

variable {σ α : Type}

/-- An action that calls no collaborator and leaves the pool and the identities
alone. -/
def Quiet (a : Act (Session σ) α) : Prop :=
  ∀ isOpen v, Act.Keeps (fun s => s.poolOpen = isOpen ∧ s.views = v)
    (fun e => e.controlCall? = none) a

theorem Quiet.pool {a : Act (Session σ) α} (h : Quiet a) (s : Session σ) :
    (a.run s).state.poolOpen = s.poolOpen := (h s.poolOpen s.views s ⟨rfl, rfl⟩).2.1.1

theorem Quiet.views {a : Act (Session σ) α} (h : Quiet a) (s : Session σ) :
    (a.run s).state.views = s.views := (h s.poolOpen s.views s ⟨rfl, rfl⟩).2.1.2

theorem Quiet.calls {a : Act (Session σ) α} (h : Quiet a) (s : Session σ) :
    (a.run s).events.filterMap Event.controlCall? = [] :=
  List.filterMap_eq_nil_iff.mpr (h s.poolOpen s.views s ⟨rfl, rfl⟩).2.2

/-- To refuse a transition is to change the lifecycle at most. -/
theorem Cluster.refuse_keeps {I : Session σ → Prop} {E : Event → Prop}
    (h : ∀ s lifecycle, I s → I { s with lifecycle := lifecycle }) (t : Transition) :
    Act.Keeps I E (refuse t) := by
  refine Act.keeps_consult fun s hs => ?_
  cases s.lifecycle.claim t.name with
  | ok lifecycle => exact h s lifecycle hs
  | error refusal => exact hs

theorem Cluster.refuse_quiet (t : Transition) :
    Quiet (Cluster.refuse t : Act (Session σ) Unit) :=
  fun _ _ => refuse_keeps (fun _ _ h => h) t

namespace Session

variable {reenter : Transition → Act (Session σ) Unit} {P : Except Failure Unit → Prop}

/-- What changes of the world and of the lifecycle keep, a reaction keeps that asks only
for what keeps it. -/
theorem react_keeps {I : Session σ → Prop} {E : Event → Prop} {r : Reaction σ}
    (hworld : ∀ s world, I s → I { s with world := world })
    (hlifecycle : ∀ s lifecycle, I s → I { s with lifecycle := lifecycle })
    (hreentered : ∀ t failure, E (.reentered t failure))
    (h : r.Meets (fun t => Act.Keeps I E (reenter t)) P) : Act.Keeps I E (react reenter r) := by
  induction r with
  | finish outcome next =>
    exact Act.Agree.bind (Act.keeps_modify (hworld · next)) fun _ => Act.keeps_ofExcept _
  | reenter t next resume ih =>
    exact Act.Agree.bind (Act.keeps_modify (hworld · next)) fun _ =>
      (h.1.attempt.map _).bind fun _ =>
      (Act.keeps_record (hreentered t _)).bind fun _ =>
      Act.keeps_get.bind fun s => ih _ _ (h.2 _ _)
  | register callback rest ih =>
    exact Act.Agree.bind (Act.keeps_modify fun s => hlifecycle s _) fun _ => ih h

theorem react_quiet {r : Reaction σ} (h : r.Meets (fun t => Quiet (reenter t)) P) :
    Quiet (react reenter r) := fun isOpen v =>
  react_keeps (fun _ _ h => h) (fun _ _ h => h) (fun _ _ => rfl) (h.imp fun _ ht => ht isOpen v)

/-- A reaction comes to one of its ends. -/
theorem react_result {Q : Transition → Prop} {r : Reaction σ} (h : r.Meets Q P) (s : Session σ) :
    P ((react reenter r).run s).result := by
  induction r generalizing s with
  | finish outcome next => exact h
  | reenter t next resume ih => exact ih _ _ (h.2 _ _) _
  | register callback rest ih => exact ih h _

/-- A call is seen as an event, before whatever the world does about it. -/
theorem call_run (w : World σ) (c : ControlCall) (s : Session σ) :
    (call w reenter c).run s =
      let r := (react reenter (w.control c s.world)).run s
      ⟨r.result, r.state, .control c :: r.events⟩ := rfl

/-- The names of this machine are found without a call. -/
theorem isLocal_calls (w : World σ) (host : Option String) (v : Vantage σ) :
    ((Identity.isLocal w host).run v).events.filterMap Event.controlCall? = [] := by
  have hkeeps : Act.Keeps (fun _ => True) (fun e => e.controlCall? = none)
      (Identity.isLocal w host) :=
    Identity.keeps_isLocal (P := fun _ => True) w (fun _ h => h) (fun _ _ => rfl) host
  exact List.filterMap_eq_nil_iff.mpr (hkeeps v trivial).2.2

theorem asking_calls (w : World σ) (host : Option String) (s : Session σ) :
    ((asking (Identity.isLocal w host)).run s).events.filterMap Event.controlCall? = [] := by
  simp only [asking, Act.run_zoom]
  exact isLocal_calls w host ⟨s.world, s.identity⟩

theorem askingOwn_calls (w : World σ) (host : Option String) (s : Session σ) :
    ((askingOwn (Identity.isLocal w host)).run s).events.filterMap Event.controlCall? = [] := by
  simp only [askingOwn, Act.run_zoom]
  exact isLocal_calls w host ⟨s.world, s.ownIdentity.getD s.identity⟩

end Session

/-! ## The account of the calls -/

/-- Makes a call. -/
def Collaborators.make (c : Collaborators σ) : ControlCall → Act (Session σ) Unit
  | .runLocal argv additions limit => c.runLocal argv additions limit
  | .runRemote host line => c.runRemote host line
  | .admin request => c.admin request
  | .purge roles => c.purge roles
  | .sleep seconds => c.sleep seconds

/-- To take a step is to make its call. -/
theorem Crew.take_eq (crew : Crew σ) (step : Step) :
    crew.take step = match step.callFor crew.settings with
      | .ok c => crew.collaborators.make c
      | .error e => Act.fail e := by
  cases step with
  | dispatch target command isLocal =>
    show Dispatch.control crew.settings crew.collaborators isLocal target command =
      match Dispatch.callFor crew.settings isLocal target command with
      | .ok c => crew.collaborators.make c
      | .error e => Act.fail e
    unfold Dispatch.control Dispatch.callFor
    cases isLocal with
    | false =>
      simp only [Bool.false_eq_true, if_false]
      cases Dispatch.commandLine crew.settings target command <;> rfl
    | true =>
      simp only [if_true]
      cases Dispatch.serviceWords crew.settings target command <;> rfl
  | _ => rfl

/-- A crew whose collaborators the world plays. -/
def Crew.direct (settings : Settings) (topology : Topology) (w : World σ)
    (reenter : Transition → Act (Session σ) Unit) : Crew σ :=
  ⟨settings, topology, w, .direct w reenter⟩

variable {settings : Settings} {topology : Topology} {w : World σ}
  {reenter : Transition → Act (Session σ) Unit}

theorem make_direct (w : World σ) (reenter : Transition → Act (Session σ) Unit) (c : ControlCall) :
    (Collaborators.direct w reenter).make c = Session.call w reenter c := by
  cases c <;> rfl

/-- To take a step is to have the world answer its call. -/
theorem take_direct (step : Step) : (Crew.direct settings topology w reenter).take step =
    match step.callFor settings with
    | .ok c => Session.call w reenter c
    | .error e => Act.fail e := by
  rw [Crew.take_eq]
  simp only [Crew.direct, make_direct]

/-- The calls made are those of the entries, and each ended as `V` allows. -/
def calls {V : ControlCall → Except Failure Unit → Prop}
    (hw : ∀ c s, (w.control c s).Meets (fun t => Quiet (reenter t)) (V c)) :
    Account (Crew.direct settings topology w reenter) where
  Fits _ l es _ :=
    es.filterMap Event.controlCall? = (l.map Entry.step).filterMap (Step.call? settings) ∧
    ∀ entry ∈ l, ∀ c, entry.step.callFor settings = .ok c → V c entry.result
  nil _ := ⟨rfl, fun _ h => by cases h⟩
  append h₁ h₂ := by
    refine ⟨?_, fun entry h => ?_⟩
    · rw [List.filterMap_append, List.map_append, List.filterMap_append, h₁.1, h₂.1]
    · rcases List.mem_append.mp h with h | h
      · exact h₁.2 entry h
      · exact h₂.2 entry h
  log _ _ _ := ⟨rfl, fun _ h => by cases h⟩
  pool _ _ := ⟨rfl, fun _ h => by cases h⟩
  asking s host := ⟨Session.asking_calls w (some host) s, fun _ h => by cases h⟩
  askingOwn s host := ⟨Session.askingOwn_calls w (some host) s, fun _ h => by cases h⟩
  take s step := by
    dsimp only
    rw [take_direct]
    cases hc : step.callFor settings with
    | error e =>
      refine ⟨?_, fun entry h c h' => ?_⟩
      · simp [Step.call?, hc, Except.toOption]
      · rw [List.mem_singleton.mp h, hc] at h'
        cases h'
    | ok c =>
      dsimp only
      rw [Session.call_run]
      refine ⟨?_, fun entry h c' h' => ?_⟩
      · have hq := (Session.react_quiet (hw c s.world)).calls s
        simp [Step.call?, hc, Except.toOption, Event.controlCall?, hq]
      · obtain rfl := List.mem_singleton.mp h
        obtain rfl := Except.ok.inj (hc.symm.trans h')
        exact Session.react_result (hw c s.world) s
  take_pool s step := by
    rw [take_direct]
    cases step.callFor settings with
    | error e => rfl
    | ok c =>
      dsimp only
      rw [Session.call_run]
      exact (Session.react_quiet (hw c s.world)).pool s
  take_views s step := by
    rw [take_direct]
    cases step.callFor settings with
    | error e => rfl
    | ok c =>
      dsimp only
      rw [Session.call_run]
      exact (Session.react_quiet (hw c s.world)).views s

/-! ## The calls of an operation -/

/-- Identities whose names are known stay as they are. -/
theorem Views.eq_of_grows {v n : Views} (h : v.Grows n) (hd : v.dispatcher.names?.isSome)
    (hq : v.sequence.names?.isSome) : n = v := by
  obtain ⟨dispatcher, sequence⟩ := v
  obtain ⟨h₁ | rfl, h₂ | rfl⟩ := h
  · rw [h₁] at hd; cases hd
  · rw [h₁] at hd; cases hd
  · rw [h₂] at hq; cases hq
  · rfl

variable (topology) in
/-- Every operation gives a report, and the calls it makes are those of its plan, in
order, whichever of them fail. -/
theorem Sequence.calls_eq_plan {launcher script : List String}
    (hl : Dispatch.wordsOf settings.launcher = .ok launcher)
    (hs : Dispatch.wordsOf settings.serviceScript = .ok script)
    (hw : ∀ c s, (w.control c s).Meets (fun t => Quiet (reenter t)) c.Permits)
    (op : Operation) (s : Session σ) (hopen : s.poolOpen = true)
    (hd : s.views.dispatcher.names?.isSome) (hq : s.views.sequence.names?.isSome) :
    let crew := Crew.direct settings topology w reenter
    let r := (carryOut crew op).run s
    (∃ report, r.result = .ok report) ∧
      r.events.filterMap Event.controlCall? =
        (Plan.of crew.scope s.views op).map (Step.call settings (launcher ++ script)) := by
  intro crew r
  have hat : FollowsAt (calls hw) s (carryOut crew op) (fun n => Plan.of crew.scope n op) _ :=
    carryOut_follows op s hopen
  have hviews : r.state.views = s.views := by
    obtain ⟨-, -, -, hg, -⟩ := hat
    exact Views.eq_of_grows hg hd hq
  obtain ⟨l, report, hr, hfit, -, hsteps⟩ := hat.never_fails fun l es s' hfit step e hmem _ =>
    Step.handles_of_permits (Step.callFor_eq hl hs step)
      (hfit.2 _ hmem _ (Step.callFor_eq hl hs step))
  refine ⟨⟨report, hr⟩, ?_⟩
  calc r.events.filterMap Event.controlCall?
      = (l.map Entry.step).filterMap (Step.call? settings) := hfit.1
    _ = (l.map Entry.step).map (Step.call settings (launcher ++ script)) :=
      Step.filterMap_call? hl hs _
    _ = (Plan.of crew.scope s.views op).map (Step.call settings (launcher ++ script)) := by
      rw [hsteps, hviews]

/-- A world in which all fails that may, in the ways that are expected, and in which
requests ask for a transition first. -/
def World.adverse : World Nat where
  control
    | .runLocal .., n => .finish (.error (.raised .runtime "" [])) (n + 1)
    | .runRemote .., n => .finish (.error .unknownHome) (n + 1)
    | .admin _, n => .reenter .stop n fun _ n =>
      .finish (.error (.administrative [] [] (.processTimedOut [] none))) (n + 1)
    | .purge roles, n => .finish (.error (.cleanup roles (.processTimedOut [] none))) (n + 1)
    | .sleep _, n => .finish (.ok ()) (n + 1)
  process _ _ _ n := (.timedOut, n + 1)
  connect _ _ n := (.error .unknownHome, n + 1)
  runOver _ _ _ n := (.timedOut, n + 1)
  machine n := (⟨.error .unknownHome, .error .unknownHome, fun _ => .error .unknownHome,
    .error .unknownHome, .error .unknownHome⟩, n + 1)
  callback _ _ _ n := .finish (.error .unknownHome) (n + 1)
  buildContext n := (⟨"", .error .unknownHome⟩, n + 1)
  closeContext _ n := (.error .unknownHome, n + 1)
  homeOf _ := none

/-- Settings for two workers a host. -/
def Settings.twoWorkers : Settings where
  confDir := .parse "conf"
  serviceScript := "svc"
  adminCommand := "adm -q"
  launcher := "sudo -n"
  workersPerHost := 2
  instanceVariable := "NR"
  sshUser := none
  sshPort := 22
  sshKey := none
  connectTimeout := 2
  commandTimeout := none
  adminTimeout := 30
  adminGrace := 10
  workerGrace := 5

theorem Settings.twoWorkers_launcher :
    Dispatch.wordsOf twoWorkers.launcher = .ok ["sudo", "-n"] := by
  show Dispatch.wordsOf "sudo -n" = _
  rfl

theorem Settings.twoWorkers_script :
    Dispatch.wordsOf twoWorkers.serviceScript = .ok ["svc"] := by
  show Dispatch.wordsOf "svc" = _
  rfl

theorem World.adverse_meets (c : ControlCall) (n : Nat) : (World.adverse.control c n).Meets
    (fun t => Quiet (Cluster.refuse t : Act (Session Nat) Unit)) c.Permits := by
  cases c with
  | admin r => exact ⟨Cluster.refuse_quiet _, fun _ _ => rfl⟩
  | _ => trivial

/-- A fleet on two hosts is stopped for certain, though every call fails. -/
theorem Sequence.stopAll_calls_adverse :
    let settings := Settings.twoWorkers
    let topology : Topology := ⟨["a"], ["b"], "a", [], []⟩
    let s : Session Nat := { world := 0, identity := .pinned [some "a"] }
    let r := (carryOut (Crew.direct settings topology .adverse Cluster.refuse) .stopAll).run s
    let here (role command : String) (number : String) : ControlCall :=
      .runLocal ["sudo", "-n", "svc", role, command] [("NR", number)] none
    (∃ report, r.result = .ok report) ∧
      r.events.filterMap Event.controlCall? = [
        .admin .stopAll, .sleep 10,
        .runRemote "b" "NR=\x27\x27 sudo -n svc manager stop", here "monitor" "stop" "",
        .runRemote "b" "NR=\x27\x27 sudo -n svc manager kill", here "monitor" "kill" "",
        here "tserver" "stop" "1", here "tserver" "stop" "2", .sleep 5,
        here "tserver" "kill" "1", here "tserver" "kill" "2",
        .purge [.worker], .purge [.coordinator, .worker, .tracer]] := by
  intro settings topology s r here
  obtain ⟨hreport, hcalls⟩ :=
    calls_eq_plan topology Settings.twoWorkers_launcher Settings.twoWorkers_script
      World.adverse_meets .stopAll s rfl rfl rfl
  refine ⟨hreport, hcalls.trans ?_⟩
  have ha : s.views.dispatcher.knows "a" = true := by
    show (Identity.pinned [some "a"]).knows "a" = true
    decide
  have hb : s.views.dispatcher.knows "b" = false := by
    show (Identity.pinned [some "a"]).knows "b" = false
    decide
  have hstop : "NR=\x27\x27 sudo -n svc manager stop" = "NR" ++ "=" ++ Text.Shell.quote "" ++
      " " ++ Text.Shell.join (["sudo", "-n"] ++ ["svc"] ++ ["manager", "stop"]) := by decide
  have hkill : "NR=\x27\x27 sudo -n svc manager kill" = "NR" ++ "=" ++ Text.Shell.quote "" ++
      " " ++ Text.Shell.join (["sudo", "-n"] ++ ["svc"] ++ ["manager", "kill"]) := by decide
  have hplan : Plan.of (Crew.direct settings topology World.adverse Cluster.refuse).scope s.views
      .stopAll =
      [.request .stopAll, .wait 10,
        .dispatch ⟨.coordinator, "b", 1, false⟩ .stop false,
        .dispatch ⟨.monitor, "a", 1, false⟩ .stop true,
        .dispatch ⟨.coordinator, "b", 1, false⟩ .kill false,
        .dispatch ⟨.monitor, "a", 1, false⟩ .kill true,
        .dispatch ⟨.worker, "a", 1, true⟩ .stop true, .dispatch ⟨.worker, "a", 2, true⟩ .stop true,
        .wait 5,
        .dispatch ⟨.worker, "a", 1, true⟩ .kill true, .dispatch ⟨.worker, "a", 2, true⟩ .kill true,
        .purge [.worker], .purge [.coordinator, .worker, .tracer]] := by
    simp [Plan.of, Plan.stopAll, Plan.tellAll, Plan.singletons, Topology.hosts, Plan.stopWorkers,
      Plan.tell, Plan.instances, Crew.scope, Crew.direct, ha, hb, settings, Settings.twoWorkers,
      topology, List.range, List.range.loop]
  rw [hplan, hstop, hkill]
  rfl

end ServerFleet
