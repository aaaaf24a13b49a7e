import ServerFleet.Proofs.Exchanges
import ServerFleet.Proofs.Handle

/-!
# Reports of what the system did

With collaborators that are built on the system, every operation gives a report,
whatever becomes of processes, connections and command lines, and the report tells how
they ended (`Report.Tells`). An `Errand` is a step with the exchanges by which it was
carried out.

Hence a cluster with such collaborators can be started and stopped at any time until
it is terminated (`Cluster.onSystem_reports`).
-/

namespace ServerFleet

open Act (Keeps)

variable {σ α : Type}

/-! ## Errands -/

/-- A step that was taken, what came of it, and the exchanges with the system that it
made. -/
structure Errand extends Entry where
  exchanges : List Exchange

/-- Whether the step asks for an orderly stop. -/
def Step.AsksToStop : Step → Prop
  | .request .stopAll | .request (.stopWorker _) => True
  | _ => False

namespace Errand

/-- Whether a command of the errand ended with the exit code zero. -/
def isOk (e : Errand) : Bool := e.exchanges.any Exchange.exitedZero

/-- What is to be told of a command for an instance. -/
def verdict? (e : Errand) : Option (Instance × Command × Bool × Bool) :=
  match e.step with
  | .dispatch target command isLocal => some (target, command, isLocal, e.isOk)
  | _ => none

end Errand

def Outcome.verdict (o : Outcome) : Instance × Command × Bool × Bool :=
  (o.target, o.command, o.isLocal, o.isOk)

/-- The report of some errands tells how their commands ended. -/
structure Report.Tells (report : Report) (errands : List Errand) : Prop where
  outcomes : report.outcomes.map Outcome.verdict = errands.filterMap Errand.verdict?
  adminOk_false : report.adminOk = some false ↔
    ∃ e ∈ errands, e.step.AsksToStop ∧ e.isOk = false
  adminOk_none : report.adminOk = none ↔ ∀ e ∈ errands, ¬ e.step.AsksToStop
  purgeOk_false : report.purgeOk = some false ↔
    ∃ e ∈ errands, (∃ roles, e.step = .purge roles) ∧ e.isOk = false
  purgeOk_none : report.purgeOk = none ↔ ∀ e ∈ errands, ∀ roles, e.step ≠ .purge roles

namespace Errand

/-- The result of an errand is decided by its exchanges. -/
def Decided (e : Errand) : Prop :=
  (∀ seconds, e.step ≠ .wait seconds) → succeeded e.result = e.isOk

variable {e : Errand}

theorem Decided.verdict?_eq (h : e.Decided) :
    e.verdict? = e.toEntry.outcome?.map Outcome.verdict := by
  obtain ⟨⟨step, result⟩, xs⟩ := e
  cases step with
  | dispatch target command isLocal =>
    have hok : succeeded result = isOk ⟨⟨.dispatch target command isLocal, result⟩, xs⟩ := h nofun
    rw [verdict?, ← hok]
    cases result <;> rfl
  | _ => rfl

theorem Decided.stopOk?_iff (h : e.Decided) (b : Bool) :
    e.toEntry.stopOk? = some b ↔ e.step.AsksToStop ∧ e.isOk = b := by
  obtain ⟨⟨step, result⟩, xs⟩ := e
  cases step with
  | request r =>
    have hok : succeeded result = isOk ⟨⟨.request r, result⟩, xs⟩ := h nofun
    cases r <;> simp [Entry.stopOk?, Step.AsksToStop, ← hok]
  | _ => simp [Entry.stopOk?, Step.AsksToStop]

theorem stopOk?_eq_none_iff : e.toEntry.stopOk? = none ↔ ¬ e.step.AsksToStop := by
  obtain ⟨⟨step, result⟩, xs⟩ := e
  cases step with
  | request r => cases r <;> simp [Entry.stopOk?, Step.AsksToStop]
  | _ => simp [Entry.stopOk?, Step.AsksToStop]

theorem Decided.purgeOk?_iff (h : e.Decided) (b : Bool) :
    e.toEntry.purgeOk? = some b ↔ (∃ roles, e.step = .purge roles) ∧ e.isOk = b := by
  obtain ⟨⟨step, result⟩, xs⟩ := e
  cases step with
  | purge roles =>
    have hok : succeeded result = isOk ⟨⟨.purge roles, result⟩, xs⟩ := h nofun
    simp [Entry.purgeOk?, ← hok]
  | _ => simp [Entry.purgeOk?]

theorem purgeOk?_eq_none_iff : e.toEntry.purgeOk? = none ↔ ∀ roles, e.step ≠ .purge roles := by
  obtain ⟨⟨step, result⟩, xs⟩ := e
  cases step <;> simp [Entry.purgeOk?]

section

variable {of : Entry → Option Bool} {P : Errand → Prop} {errands : List Errand}

theorem flag_eq_none_iff (h : ∀ e ∈ errands, of e.toEntry = none ↔ P e) :
    Ledger.flag of (errands.map toEntry) = none ↔ ∀ e ∈ errands, P e := by
  rw [Ledger.flag_eq_none_iff, List.forall_mem_map]
  exact forall₂_congr h

theorem flag_eq_false_iff
    (h : ∀ e ∈ errands, of e.toEntry = some false ↔ P e) :
    Ledger.flag of (errands.map toEntry) = some false ↔ ∃ e ∈ errands, P e := by
  rw [Ledger.flag_eq_false_iff]
  constructor
  · rintro ⟨_, hm, hf⟩
    obtain ⟨e, he, rfl⟩ := List.mem_map.mp hm
    exact ⟨e, he, (h e he).mp hf⟩
  · rintro ⟨e, he, hp⟩
    exact ⟨e.toEntry, List.mem_map_of_mem he, (h e he).mpr hp⟩

end

end Errand

/-- The tally of errands whose results are decided by their exchanges tells of them. -/
theorem Ledger.tally_tells {errands : List Errand} (h : ∀ e ∈ errands, e.Decided)
    (operation : String) (barriers : Int) :
    (tally operation barriers (errands.map Errand.toEntry)).Tells errands where
  outcomes := by
    show ((errands.map Errand.toEntry).filterMap Entry.outcome?).map Outcome.verdict = _
    induction errands with
    | nil => rfl
    | cons e errands ih =>
      have he : e.verdict? = e.toEntry.outcome?.map Outcome.verdict :=
        (h e List.mem_cons_self).verdict?_eq
      have ih := ih fun e he => h e (List.mem_cons_of_mem _ he)
      rw [List.filterMap_cons, he, ← ih, List.map_cons, List.filterMap_cons]
      cases e.toEntry.outcome? <;> rfl
  adminOk_false := Errand.flag_eq_false_iff fun e he => (h e he).stopOk?_iff false
  adminOk_none := Errand.flag_eq_none_iff fun _ _ => Errand.stopOk?_eq_none_iff
  purgeOk_false := Errand.flag_eq_false_iff fun e he => (h e he).purgeOk?_iff false
  purgeOk_none := Errand.flag_eq_none_iff fun _ _ => Errand.purgeOk?_eq_none_iff

/-! ## The account of the errands -/

/-- A crew whose collaborators are built on the system. -/
def Crew.onSystem (w : World σ) (env : Environment) (settings : Settings) (topology : Topology)
    (a : Administration) (reenter : Transition → Act (Session σ) Unit) : Crew σ :=
  ⟨settings, topology, w, .onSystem w env settings a reenter⟩

/-- How an errand went: by the exchanges of the call of its step, or without any if the
words of the call cannot be read. -/
def Errand.Fared (w : World σ) (env : Environment) (settings : Settings) (a : Administration)
    (e : Errand) : Prop :=
  match e.step.callFor settings with
  | .ok c => c.Purgeable → c.Went w env settings a e.result e.exchanges
  | .error failure => e.result = .error failure ∧ e.exchanges = []

/-- From the session `s` to `s'`, with the events `es`, there were these errands. -/
structure Accounted (w : World σ) (env : Environment) (settings : Settings) (a : Administration)
    (errands : List Errand) (s : Session σ) (es : List Event) (s' : Session σ) : Prop where
  transcript : Transcript w s.world (errands.flatMap Errand.exchanges) s'.world
  calls : es.filterMap Event.systemCall? = (errands.flatMap Errand.exchanges).map Exchange.call
  fared : ∀ e ∈ errands, e.Fared w env settings a

section

variable {w : World σ} {env : Environment} {settings : Settings} {topology : Topology}
  {a : Administration} {reenter : Transition → Act (Session σ) Unit}

namespace Accounted

variable {s s' s'' : Session σ} {es es' : List Event} {errands errands' : List Errand}

/-- Nothing was done. -/
theorem none (ht : Transcript w s.world [] s'.world)
    (hc : es.filterMap Event.systemCall? = []) : Accounted w env settings a [] s es s' :=
  ⟨ht, hc, fun _ h => absurd h List.not_mem_nil⟩

theorem single {e : Errand} (ht : Transcript w s.world e.exchanges s'.world)
    (hc : es.filterMap Event.systemCall? = e.exchanges.map Exchange.call)
    (hw : e.Fared w env settings a) : Accounted w env settings a [e] s es s' := by
  have hxs : [e].flatMap Errand.exchanges = e.exchanges := List.append_nil _
  refine ⟨hxs ▸ ht, hxs ▸ hc, fun e' he => ?_⟩
  rw [List.mem_singleton.mp he]
  exact hw

theorem append (h : Accounted w env settings a errands s es s')
    (h' : Accounted w env settings a errands' s' es' s'') :
    Accounted w env settings a (errands ++ errands') s (es ++ es') s'' where
  transcript := by
    rw [List.flatMap_append]
    exact h.transcript.append h'.transcript
  calls := by rw [List.filterMap_append, List.flatMap_append, List.map_append, h.calls, h'.calls]
  fared e he := (List.mem_append.mp he).elim (h.fared e) (h'.fared e)

end Accounted

/-- To find the names of this machine is to ask the world about it. -/
theorem Identity.isLocal_still (w : World σ) (host : Option String) (v : Vantage σ) :
    let r := (isLocal w host).run v
    Transcript w v.world [] r.state.world ∧ r.events.filterMap Event.systemCall? = [] := by
  have hkeeps : Keeps (fun u : Vantage σ => Transcript w v.world [] u.world)
      (fun e => e.systemCall? = none) (isLocal w host) :=
    keeps_isLocal (P := Transcript w v.world []) w (fun _ h => .machine h) (fun _ _ => rfl) host
  obtain ⟨-, ht, hev⟩ := hkeeps v .nil
  exact ⟨ht, List.filterMap_eq_nil_iff.mpr hev⟩

theorem Session.asking_still (w : World σ) (host : Option String) (s : Session σ) :
    let r := (asking (Identity.isLocal w host)).run s
    Transcript w s.world [] r.state.world ∧ r.events.filterMap Event.systemCall? = [] := by
  have h := Identity.isLocal_still w host ⟨s.world, s.identity⟩
  simp only [asking, Act.run_zoom]
  exact h

theorem Session.askingOwn_still (w : World σ) (host : Option String) (s : Session σ) :
    let r := (askingOwn (Identity.isLocal w host)).run s
    Transcript w s.world [] r.state.world ∧ r.events.filterMap Event.systemCall? = [] := by
  have h := Identity.isLocal_still w host ⟨s.world, s.ownIdentity.getD s.identity⟩
  simp only [askingOwn, Act.run_zoom]
  generalize (Identity.isLocal w host).run _ = r at h
  cases s.ownIdentity <;> exact h

theorem take_onSystem (step : Step) :
    (Crew.onSystem w env settings topology a reenter).take step =
      match step.callFor settings with
      | .ok c => (Collaborators.onSystem w env settings a reenter).make c
      | .error e => Act.fail e := Crew.take_eq _ step

/-- The errands of a crew whose collaborators are built on the system. -/
def errands (hw : w.Behaves reenter) :
    Account (Crew.onSystem w env settings topology a reenter) where
  Fits s l es s' := ∃ errands : List Errand, errands.map Errand.toEntry = l ∧
    Accounted w env settings a errands s es s'
  nil s := ⟨[], rfl, .none .nil rfl⟩
  append := by
    rintro s s' s'' l l' es es' ⟨errands, rfl, h⟩ ⟨errands', rfl, h'⟩
    exact ⟨errands ++ errands', List.map_append, h.append h'⟩
  log s _ _ := ⟨[], rfl, .none .nil rfl⟩
  pool s _ := ⟨[], rfl, .none .nil rfl⟩
  asking s host := by
    have hworld : (Crew.onSystem w env settings topology a reenter).world = w := rfl
    rw [hworld]
    obtain ⟨ht, hc⟩ := Session.asking_still w (some host) s
    exact ⟨[], rfl, .none ht hc⟩
  askingOwn s host := by
    have hworld : (Crew.onSystem w env settings topology a reenter).world = w := rfl
    rw [hworld]
    obtain ⟨ht, hc⟩ := Session.askingOwn_still w (some host) s
    exact ⟨[], rfl, .none ht hc⟩
  take s step := by
    dsimp only
    rw [take_onSystem]
    cases hc : step.callFor settings with
    | error e =>
      refine ⟨[⟨⟨step, .error e⟩, []⟩], rfl, .single .nil rfl ?_⟩
      simp only [Errand.Fared, hc, and_self]
    | ok c =>
      obtain ⟨xs, h⟩ := Collaborators.onSystem_conducts hw c s
      refine ⟨[⟨⟨step, _⟩, xs⟩], rfl, .single h.transcript h.calls ?_⟩
      simp only [Errand.Fared, hc]
      exact h.went
  take_pool s step := by
    rw [take_onSystem]
    cases step.callFor settings with
    | error e => rfl
    | ok c =>
      obtain ⟨xs, h⟩ := Collaborators.onSystem_conducts hw c s
      exact h.pool
  take_views s step := by
    rw [take_onSystem]
    cases step.callFor settings with
    | error e => rfl
    | ok c =>
      obtain ⟨xs, h⟩ := Collaborators.onSystem_conducts hw c s
      exact h.views

/-! ## Operations -/

theorem Plan.purge_not_mem_startAll {p : Scope} {v : Views} {roles : List Role} :
    .purge roles ∉ startAll p v := by
  simp [startAll, startWorkers, tellAll, tell]

/-- Every purge of an operation is for roles that have registrations. -/
theorem Plan.purgeFlags_ne_nil {p : Scope} {v : Views} {op : Operation} {roles : List Role}
    (h : .purge roles ∈ of p v op) : Administration.purgeFlags roles ≠ [] := by
  have htell (c : Command) (role : Role) (hosts : List String) :
      .purge roles ∉ tell p v c role hosts := by simp [tell]
  have htellAll (c : Command) (roles' : List Role) : .purge roles ∉ tellAll p v c roles' := by
    simp [tellAll, htell]
  have htellHere (c : Command) (role : Role) : .purge roles ∉ tellHere p v c role := by
    rw [tellHere]
    cases localHost? p v role <;> simp [tellAt, htell]
  have hmem : roles = [.worker] ∨ roles = [.coordinator, .worker, .tracer] ∨
      roles = [.coordinator, .worker] := by
    have hstop (h : .purge roles ∈ stopAll p v) :
        roles = [.worker] ∨ roles = [.coordinator, .worker, .tracer] := by
      simpa [stopAll, stopWorkers, htell, htellAll] using h
    cases op with
    | startAll => exact absurd h purge_not_mem_startAll
    | startWorkers => exact absurd h (htell _ _ _)
    | stopAll => exact (hstop h).imp_right .inl
    | stopWorkers =>
      refine .inl ?_
      simpa [of, stopWorkers, htell] using h
    | killAll =>
      refine .inr (.inr ?_)
      simpa [of, killAll, htellAll] using h
    | restart =>
      rcases List.mem_append.mp h with h | h
      · exact (hstop h).imp_right .inl
      · exact absurd h purge_not_mem_startAll
    | startHere => exact absurd h (by simp [of, startHere, htellHere])
    | stopHere => exact absurd h (by simp [of, stopHere, htellHere])
  rcases hmem with rfl | rfl | rfl <;> decide

/-- A command for an instance is a program on this machine or a command line on another
host. -/
theorem Step.dispatch_callFor {target : Instance} {command : Command} {isLocal : Bool}
    {c : ControlCall} (h : (dispatch target command isLocal).callFor settings = .ok c) :
    (∃ argv additions limit, c = .runLocal argv additions limit) ∨
      ∃ host line, c = .runRemote host line := by
  cases isLocal with
  | true =>
    replace h : (fun words => _) <$> Dispatch.serviceWords settings target command = _ := h
    cases hw : Dispatch.serviceWords settings target command with
    | error e => rw [hw] at h; cases h
    | ok words =>
      rw [hw] at h
      exact .inl ⟨_, _, _, (Except.ok.inj h).symm⟩
  | false =>
    replace h : (fun line => _) <$> Dispatch.commandLine settings target command = _ := h
    cases hw : Dispatch.commandLine settings target command with
    | error e => rw [hw] at h; cases h
    | ok line =>
      rw [hw] at h
      exact .inr ⟨_, _, (Except.ok.inj h).symm⟩

/-- The call of a step that is no purge, or one with something to purge. -/
theorem Step.purgeable_callFor {step : Step} {c : ControlCall} (hc : step.callFor settings = .ok c)
    (h : ∀ roles, step = .purge roles → Administration.purgeFlags roles ≠ []) : c.Purgeable := by
  cases step with
  | dispatch target command isLocal =>
    rcases dispatch_callFor hc with ⟨_, _, _, rfl⟩ | ⟨_, _, rfl⟩ <;> trivial
  | purge roles =>
    obtain rfl := Except.ok.inj hc
    exact h roles rfl
  | request r | wait seconds =>
    obtain rfl := Except.ok.inj hc
    trivial

theorem Step.callFor_ne_sleep {step : Step} {c : ControlCall} (hc : step.callFor settings = .ok c)
    (h : ∀ seconds, step ≠ .wait seconds) (seconds : Float) : c ≠ .sleep seconds := by
  cases step with
  | dispatch target command isLocal =>
    rcases dispatch_callFor hc with ⟨_, _, _, rfl⟩ | ⟨_, _, rfl⟩ <;> nofun
  | wait seconds => exact absurd rfl (h seconds)
  | request r | purge roles =>
    obtain rfl := Except.ok.inj hc
    nofun

namespace Errand

/-- The exchanges of the errand are those of its call. There are none if the words of the
call cannot be read. -/
def Made (w : World σ) (env : Environment) (settings : Settings) (a : Administration)
    (e : Errand) : Prop :=
  match e.step.callFor settings with
  | .ok c => c.Conducts w env settings a e.exchanges
  | .error _ => e.exchanges = []

namespace Fared

variable {e : Errand} (h : e.Fared w env settings a)
  (hp : ∀ roles, e.step = .purge roles → Administration.purgeFlags roles ≠ [])

include h hp

theorem made : e.Made w env settings a := by
  unfold Fared at h
  unfold Made
  split at h
  · exact (h (Step.purgeable_callFor ‹_› hp)).conducts
  · exact h.2

theorem decided : e.Decided := by
  intro hwait
  unfold Fared at h
  split at h
  · exact (h (Step.purgeable_callFor ‹_› hp)).verdict (Step.callFor_ne_sleep ‹_› hwait)
  · rw [h.1, isOk, h.2]
    rfl

/-- What goes wrong is what the step handles. -/
theorem handles {failure : Failure} (hf : e.result = .error failure) : e.step.Handles failure := by
  unfold Fared at h
  split at h
  · refine Step.handles_of_permits ‹_› ?_
    rw [← hf]
    exact (h (Step.purgeable_callFor ‹_› hp)).permits
  · -- Only the call for an instance is made of words that may be unreadable.
    cases hstep : e.step with
    | dispatch target command isLocal => trivial
    | request r | wait seconds | purge roles =>
      rename_i hc
      rw [hstep] at hc
      cases hc

end Fared

end Errand

theorem Accounted.handles {s s' : Session σ} {es : List Event} {errands : List Errand}
    (h : Accounted w env settings a errands s es s') {step : Step} {e : Failure}
    (hm : ⟨step, .error e⟩ ∈ errands.map Errand.toEntry)
    (hp : ∀ roles, step = .purge roles → Administration.purgeFlags roles ≠ []) :
    step.Handles e := by
  obtain ⟨⟨_, xs⟩, he, rfl⟩ := List.mem_map.mp hm
  exact (h.fared _ he).handles hp rfl

/-- A run of an operation from `s` gave a report of the errands of its plan, each of which
made its call, unless the words of the call cannot be read. -/
structure Performed (w : World σ) (env : Environment) (settings : Settings) (a : Administration)
    (p : Scope) (op : Operation) (s : Session σ) (r : Ran (Session σ) Report)
    (report : Report) (errands : List Errand) : Prop where
  returned : r.result = .ok report
  name : report.operation = op.name
  steps : errands.map (·.step) = Plan.of p r.state.views op
  transcript : Transcript w s.world (errands.flatMap Errand.exchanges) r.state.world
  calls : r.events.filterMap Event.systemCall? =
    (errands.flatMap Errand.exchanges).map Exchange.call
  made : ∀ e ∈ errands, e.Made w env settings a
  tells : report.Tells errands

/-- Every operation gives a report, which tells of all that it asked the system for. -/
theorem Sequence.carryOut_performed (hw : w.Behaves reenter) (op : Operation) {s : Session σ}
    (hopen : s.poolOpen = true) :
    let crew := Crew.onSystem w env settings topology a reenter
    ∃ report errands, Performed w env settings a crew.scope op s ((carryOut crew op).run s)
      report errands := by
  intro crew
  have hat : FollowsAt (errands hw) s (carryOut crew op)
      (fun n => Plan.of crew.scope n op) _ := carryOut_follows op s hopen
  obtain ⟨l, report, hr, ⟨errands, rfl, hacc⟩, htally, hsteps⟩ := hat.never_fails (by
    rintro _ es s' ⟨errands, rfl, hacc⟩ step e hm ⟨n, hplan⟩
    refine hacc.handles hm ?_
    rintro roles rfl
    exact Plan.purgeFlags_ne_nil hplan)
  rw [List.map_map] at hsteps
  have hpurge {e : Errand} (he : e ∈ errands) (roles : List Role) (hstep : e.step = .purge roles) :
      Administration.purgeFlags roles ≠ [] := by
    have hmem : e.step ∈ errands.map (Entry.step ∘ Errand.toEntry) :=
      List.mem_map_of_mem (f := Entry.step ∘ Errand.toEntry) he
    rw [hsteps, hstep] at hmem
    exact Plan.purgeFlags_ne_nil hmem
  refine ⟨report, errands, hr, by rw [htally]; rfl, hsteps, hacc.transcript, hacc.calls,
    fun e he => (hacc.fared e he).made (hpurge he), ?_⟩
  rw [htally]
  exact Ledger.tally_tells (fun e he => (hacc.fared e he).decided (hpurge he)) _ _

section

variable {launcher script : List String} (hl : Dispatch.wordsOf settings.launcher = .ok launcher)
  (hs : Dispatch.wordsOf settings.serviceScript = .ok script)

/-- A run of an operation from `s` gave a report of the errands of its plan. -/
structure Reported (w : World σ) (env : Environment) (settings : Settings) (a : Administration)
    (words : List String) (p : Scope) (op : Operation) (s : Session σ) (r : Ran (Session σ) Report)
    (report : Report) (errands : List Errand) : Prop where
  returned : r.result = .ok report
  steps : errands.map (·.step) = Plan.of p r.state.views op
  transcript : Transcript w s.world (errands.flatMap Errand.exchanges) r.state.world
  calls : r.events.filterMap Event.systemCall? =
    (errands.flatMap Errand.exchanges).map Exchange.call
  conducts : ∀ e ∈ errands, (e.step.call settings words).Conducts w env settings a e.exchanges
  tells : report.Tells errands

include hl hs in
/-- If the words of the settings can be read, every step makes its call. -/
theorem Sequence.carryOut_reported (hw : w.Behaves reenter) (op : Operation) {s : Session σ}
    (hopen : s.poolOpen = true) :
    let crew := Crew.onSystem w env settings topology a reenter
    ∃ report errands, Reported w env settings a (launcher ++ script) crew.scope op s
      ((carryOut crew op).run s) report errands := by
  intro crew
  obtain ⟨report, errands, h⟩ := carryOut_performed hw op hopen
  refine ⟨report, errands, h.returned, h.steps, h.transcript, h.calls, fun e he => ?_, h.tells⟩
  have hmade := h.made e he
  rw [Errand.Made, Step.callFor_eq hl hs] at hmade
  exact hmade

end

end

/-! ## A cluster on the system -/

theorem Administration.ofSettings_eq_ok {env : Environment} {settings : Settings}
    {a : Administration} (h : ofSettings env settings = .ok a) :
    Dispatch.wordsOf settings.adminCommand = .ok a.base ∧ a.environment = env ∧
      a.limit = some settings.adminTimeout := by
  unfold ofSettings at h
  cases hwords : Dispatch.wordsOf settings.adminCommand with
  | error e => rw [hwords] at h; cases h
  | ok base =>
    rw [hwords] at h
    obtain rfl := Except.ok.inj h
    exact ⟨rfl, rfl, rfl⟩

section Keeps

variable {E : Event → Prop} (hlog : ∀ level text, E (.log level text))
  (hsystem : ∀ c, E (.system c)) (w : World σ)

include hlog hsystem in
theorem LocalProcess.keeps_run (base : Environment) (argv : List String) (additions : Environment)
    (limit : Option Float) : Keeps (fun _ => True) E (run w base argv additions limit) :=
  (Act.keeps_log (hlog _ _)).bind fun _ => (Act.keeps_record (hsystem _)).bind fun _ =>
    (Act.keeps_consult fun _ h => h).bind fun _ => Act.keeps_ofExcept _

include hlog hsystem in
theorem RemoteShell.keeps_run (home : String) (options : RemoteOptions) (host line : String) :
    Keeps (fun _ => True) E (run w home options host line) := by
  have hconverse : Keeps (fun _ => True) E (converse w home options host line) :=
    (Act.keeps_ofExcept _).bind fun _ => (Act.keeps_record (hsystem _)).bind fun _ =>
      (Act.keeps_consult fun _ h => h).bind fun _ => (Act.keeps_record (hsystem _)).bind fun _ =>
      (Act.keeps_consult fun _ h => h).bind fun ended =>
      (Act.keeps_record (hsystem _)).bind fun _ => Act.keeps_pure ended
  exact (Act.keeps_log (hlog _ _)).bind fun _ =>
    hconverse.attempt.bind fun _ => Act.keeps_ofExcept _

include hlog hsystem in
theorem Administration.keeps_call (a : Administration) (argv : List String)
    (wrap : Failure → Failure) : Keeps (fun _ => True) E (call w a argv wrap) := by
  refine (LocalProcess.keeps_run hlog hsystem w _ _ _ _).attempt.bind fun r => ?_
  cases r with
  | ok _ => exact Act.keeps_pure ()
  | error e => exact Act.keeps_fail _

end Keeps

namespace Collaborators

/-- Apart from waiting, collaborators on the system change a session by the world alone,
and cause nothing but lines of the log and calls to the system. -/
theorem onSystem_agree {I : Session σ → Prop} {E : Event → Prop}
    (hworld : ∀ s world, I s → I { s with world := world })
    (hlog : ∀ level text, E (.log level text)) (hsystem : ∀ c, E (.system c)) (w : World σ)
    (env : Environment) (settings : Settings) (a : Administration)
    (reenter : Transition → Act (Session σ) Unit) {sleep sleep' : Float → Act (Session σ) Unit}
    (hsleep : ∀ seconds, Act.Agree I E (sleep seconds) (sleep' seconds)) :
    Agree I E { onSystem w env settings a reenter with sleep := sleep }
      { onSystem w env settings a reenter with sleep := sleep' } := by
  have hinWorld {α : Type} {b : Act σ α} (h : Keeps (fun _ => True) E b) :
      Keeps I E (Session.inWorld b) :=
    h.zoom (fun _ _ => trivial) fun s world hs _ => hworld s world hs
  refine ⟨fun argv additions limit => ?_, fun host line => ?_, fun r => ?_, fun roles => ?_,
    hsleep⟩
  · exact (hinWorld (LocalProcess.keeps_run hlog hsystem w _ _ _ _)).bind fun _ =>
      Act.keeps_pure ()
  · exact (hinWorld (RemoteShell.keeps_run hlog hsystem w _ _ _ _)).bind fun _ =>
      Act.keeps_pure ()
  · exact hinWorld (Administration.keeps_call hlog hsystem w a _ _)
  · refine hinWorld ((Act.keeps_ofExcept _).bind fun _ => ?_)
    exact Administration.keeps_call hlog hsystem w a _ _

end Collaborators

namespace Cluster

variable {w : World σ} {env : Environment} {settings : Settings} {topology : Topology}
  {a : Administration} {hasFactory : Bool}

theorem onSystem_staffed : Staffed (σ := σ)
    ⟨settings, topology, w, Collaborators.onSystem w env settings a, hasFactory⟩ :=
  fun _ _ _ hx hr => Collaborators.onSystem_agree (fun _ _ h => h) (fun _ _ => trivial)
    (fun _ => trivial) w env settings a refuse fun seconds =>
      Session.call_agree w hr hx (.sleep seconds)

/-- What a cluster on the system is made of. -/
theorem onSystem_eq {k : Cluster σ} (hk : onSystem w env settings topology hasFactory = .ok k) :
    ∃ a, Administration.ofSettings env settings = .ok a ∧
      k = ⟨settings, topology, w, Collaborators.onSystem w env settings a, hasFactory⟩ := by
  unfold onSystem at hk
  cases hsize : Dispatch.poolSize settings none with
  | error e =>
    rw [hsize] at hk
    cases hk
  | ok size =>
    cases ha : Administration.ofSettings env settings with
    | error e =>
      rw [hsize, ha] at hk
      cases hk
    | ok a =>
      rw [hsize, ha] at hk
      exact ⟨a, rfl, (Except.ok.inj hk).symm⟩

/-- A cluster on the system that is not claimed can be started and stopped. -/
theorem perform_onSystem (hw : w.Behaves refuse) {s : Session σ} (hidle : s.Idle)
    (hopen : s.poolOpen = true) {t : Transition} (ht : t ≠ .terminate) :
    let k : Cluster σ :=
      ⟨settings, topology, w, Collaborators.onSystem w env settings a, hasFactory⟩
    ∃ report, ((k.perform t).run s).result = .ok (some report) := by
  intro k
  have hrun : (k.perform t).run s = _ := Session.during_run hidle (k.body t)
  rw [hrun]
  let c := s.claimed t.name
  have hopen : c.poolOpen = true := hopen
  let acct : Account (k.crew refuse) := errands hw
  cases t with
  | start =>
    have hat : FollowsAt acct c (do
        let _ ← Sequence.setGoal (k.crew refuse) Sequence.normalGoal
        Sequence.startAll (k.crew refuse)) _ _ :=
      Sequence.setGoal_startAll_follows c hopen
    obtain ⟨-, report, hr, -⟩ := hat.never_fails (by
      rintro _ es s' ⟨errands, rfl, hacc⟩ step e hm ⟨n, hplan⟩
      refine hacc.handles hm ?_
      rintro roles rfl
      rcases List.mem_append.mp hplan with h | h
      · simp at h
      · exact absurd h Plan.purge_not_mem_startAll)
    rw [body_start]
    exact ⟨report, conclude_ok hr w .started .start⟩
  | stop =>
    obtain ⟨report, _, hr⟩ := Sequence.carryOut_performed hw .stopAll hopen
    rw [body_stop]
    exact ⟨report, conclude_ok hr.returned w .stopped .stop⟩
  | terminate => exact absurd rfl ht

section

variable {launcher script : List String} (hl : Dispatch.wordsOf settings.launcher = .ok launcher)
  (hs : Dispatch.wordsOf settings.serviceScript = .ok script)

include hl hs in
/-- For a cluster on the system whose commands can be read as words, with the administrative
command that the settings name, where processes, connections and command lines go as they may:

* every operation gives a report, which tells of all that it asked the system for;
* after any requests, unless it is terminated, the cluster can be started and stopped. -/
theorem onSystem_reports {k : Cluster σ}
    (hk : onSystem w env settings topology hasFactory = .ok k)
    {reenter : Transition → Act (Session σ) Unit} (hw : w.Behaves reenter) :
    ∃ a, (Dispatch.wordsOf settings.adminCommand = .ok a.base ∧ a.environment = env ∧
        a.limit = some settings.adminTimeout) ∧
      (∀ op s, s.poolOpen = true → ∃ report errands,
        Reported w env settings a (launcher ++ script) (k.crew reenter).scope op s
          ((Sequence.carryOut (k.crew reenter) op).run s) report errands) ∧
      ∀ world identity ownIdentity rs t,
        let s := ((k.serveAll rs).run (Session.fresh world identity ownIdentity)).state
        let r := (k.perform t).run s
        s.lifecycle.phase ≠ .terminated → t ≠ .terminate →
          (∃ report, r.result = .ok (some report)) ∧ r.state.lifecycle.phase = t.goal := by
  obtain ⟨a, ha, rfl⟩ := onSystem_eq hk
  refine ⟨a, Administration.ofSettings_eq_ok ha,
    fun op s hopen => Sequence.carryOut_reported hl hs hw op hopen, ?_⟩
  intro world identity ownIdentity rs t s r hphase ht
  have hready : Ready s := (Ready.fresh world identity ownIdentity).serveAll onSystem_staffed rs
  obtain ⟨report, hr⟩ := perform_onSystem (hw.imp fun t _ => refuse_still t)
    ⟨hphase, hready.unclaimed⟩ (hready.isOpen hphase) ht
  exact ⟨⟨report, hr⟩, ((lawful onSystem_staffed hready.unclaimed t).done _ hr).1⟩

end

end Cluster

/-- A world in which one process in three ends well, one runs out of time and one cannot
be started, and in which no command line ends well on another host. -/
def World.flaky : World Nat :=
  { adverse with
    process := fun _ _ _ n =>
      (if n % 3 = 0 then .exited 0 [] []
        else if n % 3 = 1 then .timedOut
        else .failed (.file .notFound "adm"), n + 1)
    connect := fun _ _ n => (.ok (), n)
    runOver := fun _ _ _ n => (.exited 1 "" "no such service", n) }

theorem World.flaky_dependable : World.flaky.Dependable := by
  refine fun _ => ⟨fun argv env limit n e h => ?_, fun _ _ => rfl⟩
  simp only [World.flaky] at h
  split at h
  · cases h
  · split at h
    · cases h
    · obtain rfl := ProcessEnd.failed.inj h
      rfl

/-- A fleet is restarted, for which it is asked to stop by the administrative command, and
stopped after it was started, on an unreliable system. -/
theorem Cluster.onSystem_reports_flaky : ∃ k a,
    onSystem .flaky [] .twoWorkers ⟨["a"], ["b"], "a", [], []⟩ false = .ok k ∧
      (∃ report errands, Reported .flaky [] .twoWorkers a ["sudo", "-n", "svc"]
        (k.crew refuse).scope .restart (Session.fresh 0 {} none)
        ((Sequence.carryOut (k.crew refuse) .restart).run (Session.fresh 0 {} none))
        report errands ∧
        ∃ e ∈ errands, e.step = .request .stopAll ∧ ∃ ended,
          e.exchanges = [.process ["adm", "-q", "stop-all"] [] (some 30) ended]) ∧
      let s := ((k.serveAll [.transition .start]).run (Session.fresh 0 {} none)).state
      (∃ report, ((k.perform .stop).run s).result = .ok (some report)) ∧
        ((k.perform .stop).run s).state.lifecycle.phase = .stopped := by
  have hk : onSystem .flaky [] .twoWorkers ⟨["a"], ["b"], "a", [], []⟩ false = .ok
      ⟨.twoWorkers, ⟨["a"], ["b"], "a", [], []⟩, .flaky,
        Collaborators.onSystem .flaky [] .twoWorkers ⟨["adm", "-q"], [], some 30⟩, false⟩ := rfl
  have hw : World.flaky.Behaves (refuse : Transition → Act (Session Nat) Unit) :=
    World.flaky_dependable refuse
  obtain ⟨⟨base, environment, limit⟩, ⟨hbase, rfl, rfl⟩, hops, hhandle⟩ := onSystem_reports
    Settings.twoWorkers_launcher Settings.twoWorkers_script hk hw
  have hwords : Dispatch.wordsOf Settings.twoWorkers.adminCommand = .ok ["adm", "-q"] := rfl
  obtain rfl : base = ["adm", "-q"] := Except.ok.inj (hbase.symm.trans hwords)
  obtain ⟨report, errands, hreported⟩ := hops .restart (Session.fresh 0 {} none) rfl
  have hasked : .request .stopAll ∈ errands.map (·.step) := by
    rw [hreported.steps]
    exact List.mem_append_left _ List.mem_cons_self
  obtain ⟨e, he, hstep⟩ := List.mem_map.mp hasked
  have hconducts := hreported.conducts e he
  rw [hstep] at hconducts
  refine ⟨_, _, hk, ⟨report, errands, hreported, e, he, hstep, hconducts⟩,
    hhandle 0 {} none [.transition .start] .stop ?_ nofun⟩
  decide +kernel

end ServerFleet
