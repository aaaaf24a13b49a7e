import Mathlib.Algebra.Order.Floor.Div
import ServerFleet.Proofs.Calls

/-!
# Reports account for calls

The report of an operation tells what became of the calls that the operation made, of
all of them and of no others (`Report.AccountsFor`): each outcome is that of a command
for an instance, in the order of the calls, and a flag is set if there was a call that
it speaks of, and is true if all of those succeeded.

What a call comes to is up to the world, as it is by then. `Dealings` lists the calls
of a run, each with the result it had in the session in which it was made.

* `Ledger.tally_accounts`: the tally of a ledger accounts for its entries;
* `Sequence.carryOut_accounts`: every operation gives a report that accounts for its
  calls.
-/

namespace ServerFleet

variable {σ : Type}

/-! ## Calls and their results -/

/-- A call to a collaborator, and what it came to. -/
structure Deal where
  call : ControlCall
  result : Except Failure Unit

def Deal.isOk (d : Deal) : Bool := succeeded d.result

/-- The calls from one session to another. In between, the names of this machine are
asked for. -/
inductive Dealings (w : World σ) (reenter : Transition → Act (Session σ) Unit)
    (s : Session σ) : List Deal → Session σ → Prop
  | nil : Dealings w reenter s [] s
  | asking {ds t} (host : String) : Dealings w reenter s ds t →
      Dealings w reenter s ds ((Session.asking (Identity.isLocal w (some host))).run t).state
  | askingOwn {ds t} (host : String) : Dealings w reenter s ds t →
      Dealings w reenter s ds ((Session.askingOwn (Identity.isLocal w (some host))).run t).state
  | call {ds t} (c : ControlCall) : Dealings w reenter s ds t →
      Dealings w reenter s (ds ++ [⟨c, ((Session.call w reenter c).run t).result⟩])
        ((Session.call w reenter c).run t).state

theorem Dealings.append {w : World σ} {reenter : Transition → Act (Session σ) Unit}
    {s t u : Session σ} {ds ds' : List Deal} (h : Dealings w reenter s ds t)
    (h' : Dealings w reenter t ds' u) : Dealings w reenter s (ds ++ ds') u := by
  induction h' with
  | nil =>
    rw [List.append_nil]
    exact h
  | asking host _ ih => exact .asking host ih
  | askingOwn host _ ih => exact .askingOwn host ih
  | call c _ ih =>
    rw [← List.append_assoc]
    exact .call c ih

/-! ## What a report accounts for -/

namespace ControlCall

/-- Whether the call is a command for an instance. -/
def isCommand : ControlCall → Bool
  | runLocal .. | runRemote .. => true
  | _ => false

/-- Whether the call asks for everything, or for a worker, to be stopped. -/
def asksToStop : ControlCall → Bool
  | admin .stopAll | admin (.stopWorker _) => true
  | _ => false

def isPurge : ControlCall → Bool
  | purge _ => true
  | _ => false

end ControlCall

/-- The flag that tells of some calls: unset if there are none, and true if all of them
succeeded. -/
def verdict (ds : List Deal) : Option Bool :=
  if ds.isEmpty then none else some (ds.all Deal.isOk)

theorem verdict_cons (d : Deal) (ds : List Deal) :
    verdict (d :: ds) = allOk (some d.isOk) (verdict ds) := by
  cases ds <;> simp [verdict, allOk]

/-- The call that an outcome is the outcome of, where `words` are those of the launcher and
of the service script. -/
def Outcome.call (settings : Settings) (words : List String) (o : Outcome) : ControlCall :=
  Step.call settings words (.dispatch o.target o.command o.isLocal)

/-- The report of the operation `op` on a fleet accounts for the calls `ds`. -/
structure Report.AccountsFor (report : Report) (settings : Settings) (words : List String)
    (topology : Topology) (op : Operation) (ds : List Deal) : Prop where
  /-- There is one outcome for every command, in the order of the commands. -/
  outcomes : report.outcomes.map (fun o => (o.call settings words, o.isOk)) =
    (ds.filter (·.call.isCommand)).map fun d => (d.call, d.isOk)
  /-- There was one request to stop if the flag is set, and none otherwise. -/
  adminOk : report.adminOk.toList = (ds.filter (·.call.asksToStop)).map Deal.isOk
  purgeOk : report.purgeOk = verdict (ds.filter (·.call.isPurge))
  barriers : report.barriers = if op ∈ [.startWorkers, .startAll, .restart] then
    ((topology.workers.length ⌈/⌉ 72 : Nat) : Int) else 0

/-! ## Tallies -/

/-- The call of an entry, and what it came to. -/
def Entry.deal (settings : Settings) (words : List String) (e : Entry) : Deal :=
  ⟨e.step.call settings words, e.result⟩

section

variable (settings : Settings) (words : List String)

theorem Entry.outcome?_eq (e : Entry) :
    e.outcome?.map (fun o => (o.call settings words, o.isOk)) =
      if (e.deal settings words).call.isCommand then
        some ((e.deal settings words).call, (e.deal settings words).isOk) else none := by
  obtain ⟨step, result⟩ := e
  cases step with
  | dispatch target command isLocal => cases isLocal <;> cases result <;> rfl
  | _ => rfl

theorem Entry.stopOk?_eq (e : Entry) :
    e.stopOk? = if (e.deal settings words).call.asksToStop then
      some (e.deal settings words).isOk else none := by
  obtain ⟨step, result⟩ := e
  cases step with
  | dispatch target command isLocal => cases isLocal <;> rfl
  | request r => cases r <;> rfl
  | _ => rfl

theorem Entry.purgeOk?_eq (e : Entry) :
    e.purgeOk? = if (e.deal settings words).call.isPurge then
      some (e.deal settings words).isOk else none := by
  obtain ⟨step, result⟩ := e
  cases step with
  | dispatch target command isLocal => cases isLocal <;> rfl
  | _ => rfl

namespace Ledger

/-- The flag of a ledger tells of the calls that its entries are flagged for. -/
theorem flag_eq_verdict {of : Entry → Option Bool} {p : ControlCall → Bool}
    (h : ∀ e : Entry, of e = if p (e.deal settings words).call then
      some (e.deal settings words).isOk else none) (l : List Entry) :
    flag of l = verdict ((l.map (Entry.deal settings words)).filter fun d => p d.call) := by
  induction l with
  | nil => rfl
  | cons e l ih =>
    rw [flag, ih, h e, List.map_cons, List.filter_cons]
    split
    · rw [verdict_cons]
    · rw [none_allOk]

theorem outcomes_eq (l : List Entry) :
    (l.filterMap Entry.outcome?).map (fun o => (o.call settings words, o.isOk)) =
      ((l.map (Entry.deal settings words)).filter (·.call.isCommand)).map
        fun d => (d.call, d.isOk) := by
  induction l with
  | nil => rfl
  | cons e l ih =>
    have he := Entry.outcome?_eq settings words e
    rw [List.filterMap_cons, List.map_cons, List.filter_cons]
    split at he
    · rename_i hcommand
      obtain ⟨o, ho, hcall⟩ := Option.map_eq_some_iff.mp he
      rw [ho, if_pos hcommand, List.map_cons, List.map_cons, ih, hcall]
    · rename_i hcommand
      rw [Option.map_eq_none_iff.mp he, if_neg hcommand, ih]

end Ledger

/-! ## Operations -/

namespace Plan

/-- The requests to stop among the calls of some steps. -/
def stopRequests (steps : List Step) : List ControlCall :=
  (steps.map (Step.call settings words)).filter ControlCall.asksToStop

theorem stopRequests_append (l l' : List Step) :
    stopRequests settings words (l ++ l') =
      stopRequests settings words l ++ stopRequests settings words l' := by
  simp [stopRequests]

theorem stopRequests_flatMap {α : Type} {f : α → List Step} {xs : List α}
    (h : ∀ x ∈ xs, stopRequests settings words (f x) = []) :
    stopRequests settings words (xs.flatMap f) = [] := by
  induction xs with
  | nil => rfl
  | cons x xs ih =>
    rw [List.flatMap_cons, stopRequests_append, h x List.mem_cons_self,
      ih fun y hy => h y (List.mem_cons_of_mem _ hy), List.append_nil]

variable (p : Scope) (v : Views) (c : Command)

theorem stopRequests_tell (role : Role) (hosts : List String) :
    stopRequests settings words (tell p v c role hosts) = [] := by
  refine stopRequests_flatMap settings words fun host _ => ?_
  refine List.filter_eq_nil_iff.mpr fun call hcall => ?_
  obtain ⟨step, hstep, rfl⟩ := List.mem_map.mp hcall
  obtain ⟨target, -, rfl⟩ := List.mem_map.mp hstep
  cases v.dispatcher.knows host <;> exact Bool.false_ne_true

theorem stopRequests_tellAll (roles : List Role) :
    stopRequests settings words (tellAll p v c roles) = [] :=
  stopRequests_flatMap settings words fun role _ => stopRequests_tell settings words p v c role _

theorem stopRequests_tellHere (roles : List Role) :
    stopRequests settings words (roles.flatMap (tellHere p v c)) = [] := by
  refine stopRequests_flatMap settings words fun role _ => ?_
  rw [tellHere]
  cases localHost? p v role with
  | none => rfl
  | some host => exact stopRequests_tell settings words p v c role [host]

theorem stopRequests_startAll : stopRequests settings words (startAll p v) = [] := by
  rw [startAll, startWorkers, stopRequests_append, stopRequests_tell, stopRequests_tellAll]
  rfl

theorem stopRequests_stopWorkers : stopRequests settings words (stopWorkers p v) = [] := by
  have hrest : stopWorkers p v = tell p v .stop .worker p.topology.workers ++
      ([.wait p.workerGrace] ++ (tell p v .kill .worker p.topology.workers ++
        [.purge [.worker]])) := rfl
  simp only [hrest, stopRequests_append, stopRequests_tell]
  rfl

theorem stopRequests_stopAll : stopRequests settings words (stopAll p v) = [.admin .stopAll] := by
  simp only [stopAll, stopRequests_append, stopRequests_tellAll, stopRequests_stopWorkers]
  rfl

/-- An operation asks for a stop once at most. -/
theorem length_stopRequests_le (op : Operation) :
    (stopRequests settings words (of p v op)).length ≤ 1 := by
  cases op with
  | startAll => simp [of, stopRequests_startAll]
  | startWorkers => simp [of, startWorkers, stopRequests_tell]
  | stopAll => simp [of, stopRequests_stopAll]
  | stopWorkers => simp [of, stopRequests_stopWorkers]
  | killAll =>
    rw [of, killAll, stopRequests_append, stopRequests_tellAll]
    exact Nat.zero_le 1
  | restart =>
    rw [of, restart, stopRequests_append, stopRequests_stopAll, stopRequests_startAll]
    exact Nat.le_refl 1
  | startHere =>
    rw [of, startHere, stopRequests_tellHere]
    exact Nat.zero_le 1
  | stopHere =>
    rw [of, stopHere, stopRequests_append, stopRequests_append, stopRequests_tellHere,
      stopRequests_tellHere, List.append_nil, List.append_nil]
    cases localHost? p v .worker
    · exact Nat.zero_le 1
    · exact Nat.le_refl 1

/-- Workers are waited for once for every 72 hosts, and for those left over. -/
theorem barriers_eq (t : Topology) (op : Operation) :
    barriers t op = if op ∈ [.startWorkers, .startAll, .restart] then
      ((t.workers.length ⌈/⌉ 72 : Nat) : Int) else 0 := by
  have hbatches : (Dispatch.batches Dispatch.batchSize t.workers).length =
      t.workers.length ⌈/⌉ 72 := Dispatch.length_batches (by decide) _
  cases op <;> simp [barriers, hbatches]

end Plan

/-- The tally of the steps of an operation accounts for their calls. -/
theorem Ledger.tally_accounts {p : Scope} {v : Views} {op : Operation} {l : List Entry}
    (hsteps : l.map Entry.step = Plan.of p v op) :
    (tally op.name (Plan.barriers p.topology op) l).AccountsFor settings words p.topology op
      (l.map (Entry.deal settings words)) where
  outcomes := outcomes_eq settings words l
  adminOk := by
    show (flag Entry.stopOk? l).toList = _
    rw [flag_eq_verdict settings words (Entry.stopOk?_eq settings words)]
    have hcalls : ((l.map (Entry.deal settings words)).filter (·.call.asksToStop)).map Deal.call =
        Plan.stopRequests settings words (Plan.of p v op) := by
      rw [← hsteps, Plan.stopRequests, List.map_map, ← Function.comp_def, ← List.filter_map,
        List.map_map]
      rfl
    have hone := Plan.length_stopRequests_le settings words p v op
    rw [← hcalls, List.length_map] at hone
    generalize (l.map (Entry.deal settings words)).filter (·.call.asksToStop) = ds at hone
    match ds, hone with
    | [], _ => rfl
    | [d], _ => simp [verdict]
  purgeOk := flag_eq_verdict settings words (Entry.purgeOk?_eq settings words) l
  barriers := Plan.barriers_eq p.topology op

end

/-! ## The account of the calls and their results -/

section

variable {settings : Settings} {topology : Topology} {w : World σ}
  {reenter : Transition → Act (Session σ) Unit} {launcher script : List String}
  (hl : Dispatch.wordsOf settings.launcher = .ok launcher)
  (hs : Dispatch.wordsOf settings.serviceScript = .ok script)

section

variable {V : ControlCall → Except Failure Unit → Prop}
  (hw : ∀ c s, (w.control c s).Meets (fun t => Quiet (reenter t)) (V c))

include hw

theorem take_direct_pool (s : Session σ) (step : Step) :
    (((Crew.direct settings topology w reenter).take step).run s).state.poolOpen = s.poolOpen :=
  (calls hw).take_pool s step

theorem take_direct_views (s : Session σ) (step : Step) :
    (((Crew.direct settings topology w reenter).take step).run s).state.views = s.views :=
  (calls hw).take_views s step

end

/-- The entries are those of the calls, with the results that the world gave them. -/
def dealings {V : ControlCall → Except Failure Unit → Prop}
    (hw : ∀ c s, (w.control c s).Meets (fun t => Quiet (reenter t)) (V c)) :
    Account (Crew.direct settings topology w reenter) where
  Fits s l es s' := (calls hw).Fits s l es s' ∧
    Dealings w reenter s (l.map (Entry.deal settings (launcher ++ script))) s'
  nil s := ⟨(calls hw).nil s, .nil⟩
  append h h' := ⟨(calls hw).append h.1 h'.1, List.map_append ▸ h.2.append h'.2⟩
  log s level text := ⟨(calls hw).log s level text, .nil⟩
  pool s step := ⟨(calls hw).pool s step, .nil⟩
  asking s host := ⟨(calls hw).asking s host, .asking host .nil⟩
  askingOwn s host := ⟨(calls hw).askingOwn s host, .askingOwn host .nil⟩
  take s step := by
    refine ⟨(calls hw).take s step, ?_⟩
    rw [take_direct, Step.callFor_eq hl hs]
    exact .call (step.call settings (launcher ++ script)) .nil
  take_pool := take_direct_pool hw
  take_views := take_direct_views hw

variable (topology) in
include hl hs in
/-- Whichever calls fail of those that may, an operation gives a report, and the report
accounts for the calls that the operation made. -/
theorem Sequence.carryOut_accounts
    (hw : ∀ c s, (w.control c s).Meets (fun t => Quiet (reenter t)) c.Permits)
    (op : Operation) (s : Session σ) (hopen : s.poolOpen = true) :
    let r := (carryOut (Crew.direct settings topology w reenter) op).run s
    ∃ report ds, r.result = .ok report ∧ Dealings w reenter s ds r.state ∧
      r.events.filterMap Event.controlCall? = ds.map Deal.call ∧
      report.AccountsFor settings (launcher ++ script) topology op ds := by
  intro r
  let crew := Crew.direct settings topology w reenter
  have hat : FollowsAt (dealings hl hs hw) s (carryOut crew op)
      (fun n => Plan.of crew.scope n op) _ := carryOut_follows op s hopen
  obtain ⟨l, report, hr, ⟨hcalls, hdeals⟩, hreport, hsteps⟩ := hat.never_fails
    fun l es s' hfit step e hmem _ =>
      Step.handles_of_permits (Step.callFor_eq hl hs step)
        (hfit.1.2 _ hmem _ (Step.callFor_eq hl hs step))
  refine ⟨report, _, hr, hdeals, ?_, ?_⟩
  · rw [hcalls.1, Step.filterMap_call? hl hs, List.map_map, List.map_map]
    rfl
  · rw [hreport]
    exact Ledger.tally_accounts settings (launcher ++ script) hsteps

end

/-- A world in which all fails that may, but for the last purge of a stop. -/
def World.mending : World Nat :=
  { World.adverse with
    control := fun
      | .purge [.coordinator, .worker, .tracer], n => .finish (.ok ()) (n + 1)
      | c, n => World.adverse.control c n }

theorem World.mending_meets (c : ControlCall) (n : Nat) : (World.mending.control c n).Meets
    (fun t => Quiet (Cluster.refuse t : Act (Session Nat) Unit)) c.Permits := by
  simp only [World.mending]
  split
  · trivial
  · exact World.adverse_meets c n

/-- A fleet is restarted. That the last purge succeeds does not hide that one failed
before. -/
theorem Sequence.restart_accounts_mending :
    let settings := Settings.twoWorkers
    let topology : Topology := ⟨["a"], ["b"], "a", [], []⟩
    let s : Session Nat := { world := 0, identity := .pinned [some "a"] }
    let r := (carryOut (Crew.direct settings topology .mending Cluster.refuse) .restart).run s
    (∃ report ds, r.result = .ok report ∧ Dealings .mending Cluster.refuse s ds r.state ∧
      r.events.filterMap Event.controlCall? = ds.map Deal.call ∧
      report.AccountsFor settings ["sudo", "-n", "svc"] topology .restart ds) ∧
    (r.result.toOption.map fun report => (report.adminOk, report.purgeOk, report.barriers)) =
      some (some false, some false, 1) := by
  intro settings topology s r
  refine ⟨carryOut_accounts topology Settings.twoWorkers_launcher Settings.twoWorkers_script
    World.mending_meets .restart s rfl, ?_⟩
  decide +kernel

end ServerFleet
