import ServerFleet.Proofs.FanOut

/-!
# Workers started in batches

To start the workers of some hosts a batch of hosts at a time comes to the same as to start
them all at once, but for the steps of the pool: the same calls end in the same outcomes
(`Dispatch.startWorkers_batched`). The launches of a batch are all waited for before one of
the next batch is handed over, so that a pool of the default size is never asked for more
than it has room for (`outstanding_le`).

Both ways are compared with what they have in common: the instances' commands carried out
one after the other, without a pool (`Dispatch.run_run`, `Dispatch.run_each_run`).
-/

namespace ServerFleet

variable {σ α : Type}

/-! ## The steps of the pool -/

/-- An action that leaves an open pool open and takes no step of it. -/
def Idle (a : Act (Session σ) α) : Prop :=
  Act.Keeps (fun s => s.poolOpen = true) (fun e => e.poolStep? = none) a

/-- A call is idle if what is asked for on the way is. -/
theorem Session.call_idle {w : World σ} {reenter : Transition → Act (Session σ) Unit}
    {P : Except Failure Unit → Prop} {c : ControlCall}
    (h : ∀ s, (w.control c s).Meets (fun t => Idle (reenter t)) P) :
    Idle (Session.call w reenter c) :=
  (Act.keeps_record (E := fun e => e.poolStep? = none) rfl).bind fun _ =>
    Act.keeps_get.bind fun s =>
      react_keeps (fun _ _ h => h) (fun _ _ h => h) (fun _ _ => rfl) (h s.world)

/-- How many calls are left to be waited for after some steps of the pool. -/
def outstanding (steps : List PoolStep) : Int :=
  (steps.map fun
    | .submit .. => 1
    | .join n => -(n : Int)).sum

/-- The steps of the pool for launching the workers of some hosts together. -/
def launches (count : Nat) (hosts : List String) : List PoolStep :=
  (hosts.flatMap (Plan.instances count .worker)).map (.submit · .start) ++
    [.join (count * hosts.length)]

theorem outstanding_append (p q : List PoolStep) :
    outstanding (p ++ q) = outstanding p + outstanding q := by
  rw [outstanding, List.map_append, List.sum_append, outstanding, outstanding]

theorem outstanding_submit (command : Command) (targets : List Instance) :
    outstanding (targets.map (.submit · command)) = targets.length := by
  induction targets with
  | nil => rfl
  | cons target targets ih =>
    have hone : outstanding [.submit target command] = 1 := rfl
    rw [List.map_cons, ← List.singleton_append, outstanding_append, ih, hone, List.length_cons]
    omega

theorem length_workers (count : Nat) (hosts : List String) :
    (hosts.flatMap (Plan.instances count .worker)).length = count * hosts.length := by
  induction hosts with
  | nil => rfl
  | cons host hosts ih =>
    rw [List.flatMap_cons, List.length_append, ih, Plan.instances, List.length_map,
      List.length_range, List.length_cons, Nat.mul_succ, Nat.add_comm]

/-- Launches that are waited for leave nothing outstanding, and before that no more than
there are workers. -/
theorem outstanding_launches {count : Nat} {hosts : List String} {p : List PoolStep}
    (h : p <+: launches count hosts) :
    outstanding p ≤ (count * hosts.length : Nat) ∧
      (p = launches count hosts → outstanding p = 0) := by
  have hall : outstanding (launches count hosts) = 0 := by
    have hjoin (n : Nat) : outstanding [.join n] = -(n : Int) := by simp [outstanding]
    rw [launches, outstanding_append, outstanding_submit, length_workers, hjoin]
    omega
  refine ⟨?_, fun hp => hp ▸ hall⟩
  rcases List.prefix_concat_iff.mp h with rfl | hsubmits
  · exact hall.trans_le (Int.natCast_nonneg _)
  · -- What is handed over first is a part of what is handed over.
    have hpart := List.prefix_iff_eq_take.mp hsubmits
    rw [← List.map_take] at hpart
    rw [hpart, outstanding_submit, ← length_workers count hosts]
    exact Int.ofNat_le.mpr (List.length_take_le' _ _)

/-- Launches in groups that are waited for in turn never leave more outstanding than there
are workers in a group. -/
theorem outstanding_le {count bound : Nat} {groups : List (List String)}
    (hbound : ∀ g ∈ groups, g.length ≤ bound) {p : List PoolStep}
    (h : p <+: groups.flatMap (launches count)) :
    outstanding p ≤ (bound * count : Nat) := by
  induction groups generalizing p with
  | nil =>
    rw [List.prefix_nil.mp h]
    exact Int.natCast_nonneg _
  | cons g groups ih =>
    rw [List.flatMap_cons] at h
    have hsize : count * g.length ≤ bound * count := by
      rw [Nat.mul_comm]
      exact Nat.mul_le_mul_right count (hbound g (List.mem_cons_self ..))
    rcases List.prefix_or_prefix_of_prefix h (List.prefix_append _ _) with hg | ⟨q, rfl⟩
    · exact (outstanding_launches hg).1.trans (Int.ofNat_le.mpr hsize)
    · have hq := (List.prefix_append_right_inj _).mp h
      have hzero := (outstanding_launches (List.prefix_refl (launches count g))).2 rfl
      have hrest := ih (fun g' hg' => hbound g' (List.mem_cons_of_mem _ hg')) hq
      rw [outstanding_append, hzero]
      omega

namespace Dispatch

/-! ## Batches -/

theorem batchesFrom_full {size room : Nat} {batch : List α} (hroom : 0 < room)
    (hsize : batch.length + room = size) (xs : List α) :
    (∀ b ∈ (batchesFrom size room batch xs).dropLast, b.length = size) ∧
      ∀ b ∈ batchesFrom size room batch xs, 0 < b.length ∧ b.length ≤ size := by
  induction xs generalizing room batch with
  | nil =>
    rw [batchesFrom]
    split
    · simp
    · rename_i h
      have hbatch : 0 < batch.length := by simpa [List.length_pos_iff] using h
      refine ⟨by simp, fun b hb => ?_⟩
      rw [List.mem_singleton.mp hb]
      omega
  | cons x xs ih =>
    rw [batchesFrom]
    have hlength : (batch ++ [x]).length = batch.length + 1 := by simp
    split
    · have hfull : (batch ++ [x]).length = size := by omega
      obtain ⟨hinit, hall⟩ : (∀ b ∈ (batchesFrom size size [] xs).dropLast, b.length = size) ∧
          ∀ b ∈ batchesFrom size size [] xs, 0 < b.length ∧ b.length ≤ size :=
        ih (by omega) (Nat.zero_add size)
      refine ⟨fun b hb => ?_, fun b hb => ?_⟩
      · generalize batchesFrom size size [] xs = rest at hb hinit
        cases rest with
        | nil => cases hb
        | cons c rest =>
          rcases List.mem_cons.mp hb with rfl | hb
          · exact hfull
          · exact hinit b hb
      · rcases List.mem_cons.mp hb with rfl | hb
        · omega
        · exact hall b hb
    · exact ih (by omega) (by omega)

/-- All batches but the last one are full, and none is empty. -/
theorem batches_full {size : Nat} (hsize : 0 < size) (xs : List α) :
    (∀ b ∈ (batches size xs).dropLast, b.length = size) ∧
      ∀ b ∈ batches size xs, 0 < b.length ∧ b.length ≤ size :=
  batchesFrom_full hsize (by simp) xs

variable {settings : Settings} {w : World σ} {c : Collaborators σ}
  (hlocal : ∀ argv additions limit, Idle (c.runLocal argv additions limit))
  (hremote : ∀ host line, Idle (c.runRemote host line))

/-! ## Commands without a pool -/

include hlocal hremote in
theorem control_idle (isLocal : Bool) (target : Instance) (command : Command) :
    Idle (control settings c isLocal target command) := by
  unfold control
  split
  · exact (Act.keeps_ofExcept _).bind fun words => hlocal words _ _
  · exact (Act.keeps_ofExcept _).bind fun line => hremote _ line

variable (settings w) in
include hlocal hremote in
/-- The command for an instance does not fail, and takes no step of the pool. -/
theorem carryOut_leads (target : Instance) (command : Command) :
    Act.Leads (fun s : Session σ => s.poolOpen = true) (fun e => e.poolStep? = none)
      (carryOut settings w c target command) (carryOut settings w c target command)
      (fun _ s => s.poolOpen = true) fun _ => False := by
  have hask : Act.Keeps (fun s : Session σ => s.poolOpen = true) (fun e => e.poolStep? = none)
      (Session.asking (Identity.isLocal w (some target.host))) :=
    (Identity.keeps_isLocal (P := fun _ => True) w (fun _ h => h) (fun _ _ => rfl) _).zoom
      (fun _ _ => trivial) fun _ _ h _ => h
  refine (hask.leads_of_ok fun s => ?_).bind fun isLocal =>
    (control_idle hlocal hremote isLocal target command).leads_attempt.bind fun r => ?_
  · obtain ⟨world, identity, es, hrun, -⟩ := Session.asking_run w target.host s
    exact ⟨_, congrArg Ran.result hrun⟩
  · have hnote (level : Level) (text : String) (o : Outcome) :
        Act.Leads (fun s : Session σ => s.poolOpen = true) (fun e => e.poolStep? = none)
          (do Act.log level text; return o) (do Act.log level text; return o)
          (fun _ s => s.poolOpen = true) fun _ => False :=
      (Act.leads_record (E := fun e => e.poolStep? = none) rfl).bind fun _ =>
        Act.leads_pure _ fun _ h => h
    cases r with
    | ok _ => exact hnote _ _ _
    | error e => exact hnote _ _ _

/-! ## Commands with a pool -/

theorem submit_each_run {s : Session σ} (hopen : s.poolOpen = true) (command : Command)
    (targets : List Instance) : (Act.each (submit command) targets).run s =
      ⟨.ok (targets.map (·, command)), s, targets.map (.pool <| .submit · command)⟩ := by
  induction targets with
  | nil => rfl
  | cons target targets ih =>
    exact Act.run_each_cons (submit_run hopen command target) ih

/-- What commands for some instances cause that are handed over before the first one and waited
for after the last one, where `es` is what the commands themselves cause. -/
def pooled (command : Command) (targets : List Instance) (es : List Event) : List Event :=
  targets.map (.pool <| .submit · command) ++ (es ++ [.pool (.join targets.length)])

theorem filter_pooled {es : List Event} (h : ∀ e ∈ es, e.poolStep? = none) (command : Command)
    (targets : List Instance) : (pooled command targets es).filter (·.poolStep?.isNone) = es := by
  have hsubmits : (targets.map (Event.pool <| .submit · command)).filter
      (·.poolStep?.isNone) = [] := by
    simp [List.filter_map, Function.comp_def, Event.poolStep?]
  have hidle : es.filter (·.poolStep?.isNone) = es :=
    List.filter_eq_self.mpr fun e he => by rw [h e he]; rfl
  have hjoin : [Event.pool (.join targets.length)].filter (·.poolStep?.isNone) = [] := rfl
  rw [pooled, List.filter_append, List.filter_append, hsubmits, hidle, hjoin, List.append_nil,
    List.nil_append]

theorem poolStep_pooled {es : List Event} (h : ∀ e ∈ es, e.poolStep? = none) (command : Command)
    (targets : List Instance) : (pooled command targets es).filterMap Event.poolStep? =
      targets.map (.submit · command) ++ [.join targets.length] := by
  have hsubmits : (targets.map (Event.pool <| .submit · command)).filterMap Event.poolStep? =
      targets.map (.submit · command) := by
    rw [List.filterMap_map, ← List.filterMap_eq_map]
    rfl
  have hidle : es.filterMap Event.poolStep? = [] := List.filterMap_eq_nil_iff.mpr h
  have hjoin : [Event.pool (.join targets.length)].filterMap Event.poolStep? =
      [.join targets.length] := rfl
  rw [pooled, List.filterMap_append, List.filterMap_append, hsubmits, hidle, hjoin,
    List.nil_append]

/-- A command for a role is the commands for the instances, with the pool around them. -/
theorem run_run {s s' : Session σ} {os : List Outcome} {es : List Event}
    (hopen : s.poolOpen = true) (role : Role) (hosts : List String) (command : Command)
    (h : (Act.each (carryOut settings w c · command)
      (hosts.flatMap (Plan.instances settings.workersPerHost role))).run s = ⟨.ok os, s', es⟩) :
    (run settings w c role hosts command).run s = ⟨.ok os, s',
      pooled command (hosts.flatMap (Plan.instances settings.workersPerHost role)) es⟩ := by
  have hinstances : instances settings role =
      Plan.instances settings.workersPerHost role :=
    funext fun host => Plan.onHost_eq_instances role host _
  unfold run join
  rw [hinstances, Act.run_bind_of_ok (submit_each_run hopen command _), Act.each_map,
    Act.run_bind_of_ok h, List.length_map]
  rfl

variable (settings w) in
include hlocal hremote in
/-- Commands for the workers of hosts in groups come to the same as the commands for all of
them, and each group is launched by itself. -/
theorem run_each_run (groups : List (List String)) (s : Session σ) (hopen : s.poolOpen = true) :
    ∃ parts s' es events,
      (Act.each (carryOut settings w c · .start) (groups.flatten.flatMap
        (Plan.instances settings.workersPerHost .worker))).run s = ⟨.ok parts.flatten, s', es⟩ ∧
      (Act.each (run settings w c .worker · .start) groups).run s = ⟨.ok parts, s', events⟩ ∧
      parts.length = groups.length ∧
      events.filter (·.poolStep?.isNone) = es ∧
      events.filterMap Event.poolStep? =
        groups.flatMap (launches settings.workersPerHost) := by
  induction groups generalizing s with
  | nil => exact ⟨[], s, [], [], rfl, rfl, rfl, rfl, rfl⟩
  | cons g groups ih =>
    let targets := g.flatMap (Plan.instances settings.workersPerHost .worker)
    obtain ⟨os, s', es, hgroup, hopen', hidle⟩ :=
      (Act.Leads.each (carryOut_leads settings w hlocal hremote · .start) targets).run_ok hopen
    obtain ⟨parts, s'', es', events, hrest, hruns, hlength, hsame, hsteps⟩ := ih s' hopen'
    refine ⟨os :: parts, s'', es ++ es', pooled .start targets es ++ events, ?_,
      Act.run_each_cons (run_run hopen .worker g .start hgroup) hruns, ?_, ?_, ?_⟩
    · rw [List.flatten_cons, List.flatMap_append]
      exact Act.run_each_append hgroup hrest
    · rw [List.length_cons, List.length_cons, hlength]
    · rw [List.filter_append, filter_pooled hidle, hsame]
    · rw [List.filterMap_append, poolStep_pooled hidle, hsteps, List.flatMap_cons, launches,
        length_workers]

include hlocal hremote in
/-- To start the workers of some hosts in batches does not fail, and comes to the same as to
start them all at once, but for the steps of the pool. The hosts are started in groups of 72
and a last one that may be smaller, each launched and waited for once before the next. Every
wait is for some launches, and there are never more of them than fit the pool. -/
theorem startWorkers_batched (hcount : 1 ≤ settings.workersPerHost) (hosts : List String)
    (s : Session σ) (hopen : s.poolOpen = true) :
    let whole := (run settings w c .worker hosts .start).run s
    let batched := (startWorkers settings w c hosts).run s
    let steps := batched.events.filterMap Event.poolStep?
    ∃ (outcomes : List Outcome) (groups : List (List String)),
      whole.result = .ok outcomes ∧
      batched.result = .ok ⟨outcomes, (hosts.length + 71) / 72⟩ ∧
      batched.state = whole.state ∧
      batched.events.filter (·.poolStep?.isNone) = whole.events.filter (·.poolStep?.isNone) ∧
      groups.flatten = hosts ∧
      (∀ g ∈ groups.dropLast, g.length = 72) ∧
      (∀ g ∈ groups, 0 < g.length ∧ g.length ≤ 72) ∧
      steps = groups.flatMap (launches settings.workersPerHost) ∧
      (∀ n, .join n ∈ steps → 0 < n) ∧
      (∀ p, p <+: steps → outstanding p ≤ (72 * settings.workersPerHost : Nat)) ∧
      poolSize settings none = .ok (72 * settings.workersPerHost : Nat) := by
  intro whole batched steps
  have hsize : 0 < batchSize := by decide
  obtain ⟨hfull, hbounds⟩ := batches_full hsize hosts
  have hwhole : (batches batchSize hosts).flatten = hosts := flatten_batches batchSize hosts
  obtain ⟨parts, s', es, events, hcommands, hruns, hlength, hsame, hsteps⟩ :=
    run_each_run settings w hlocal hremote (batches batchSize hosts) s hopen
  rw [hwhole] at hcommands
  have hidle : ∀ e ∈ es, e.poolStep? = none := fun e he => by
    rw [← hsame] at he
    exact Option.isNone_iff_eq_none.mp (List.mem_filter.mp he).2
  have hwholeRun : whole = ⟨.ok parts.flatten, s', pooled .start
      (hosts.flatMap (Plan.instances settings.workersPerHost .worker)) es⟩ :=
    run_run hopen .worker hosts .start hcommands
  have hbatchedRun : batched = ⟨.ok ⟨parts.flatten, parts.length⟩, s', events ++ []⟩ :=
    Act.run_bind_of_ok hruns
  have hstepsEq : steps = (batches batchSize hosts).flatMap (launches settings.workersPerHost) := by
    rw [← hsteps, ← List.append_nil events]
    exact congrArg (fun r => r.events.filterMap Event.poolStep?) hbatchedRun
  have hceil : parts.length = (hosts.length + 71) / 72 :=
    hlength.trans (length_batches hsize hosts)
  refine ⟨parts.flatten, batches batchSize hosts, congrArg Ran.result hwholeRun, ?_, ?_, ?_,
    hwhole, hfull, hbounds, hstepsEq, ?_, ?_, ?_⟩
  · rw [hbatchedRun, hceil]
  · rw [hbatchedRun, hwholeRun]
  · rw [hbatchedRun, hwholeRun, List.append_nil, hsame, filter_pooled hidle]
  · intro n hn
    rw [hstepsEq] at hn
    obtain ⟨g, hg, hjoin⟩ := List.mem_flatMap.mp hn
    have hn : n = settings.workersPerHost * g.length := by
      simpa [launches] using hjoin
    rw [hn]
    exact Nat.mul_pos hcount (hbounds g hg).1
  · intro p hp
    exact outstanding_le (fun g hg => (hbounds g hg).2) (hstepsEq ▸ hp)
  · have hpool : ¬ ((72 * settings.workersPerHost : Nat) : Int) ≤ 0 := by omega
    exact if_neg hpool

/-- A host more than fits a batch is waited for by itself, though every other call fails. -/
theorem startWorkers_batched_wavering :
    let s : Session Nat := { world := 0 }
    let hosts := List.replicate 73 "b"
    let c := Collaborators.direct World.wavering Cluster.refuse
    let whole := (run Settings.twoWorkers .wavering c .worker hosts .start).run s
    let batched := (startWorkers Settings.twoWorkers .wavering c hosts).run s
    let steps := batched.events.filterMap Event.poolStep?
    ∃ (outcomes : List Outcome) (groups : List (List String)),
      whole.result = .ok outcomes ∧
      batched.result = .ok ⟨outcomes, 2⟩ ∧
      batched.state = whole.state ∧
      batched.events.filter (·.poolStep?.isNone) = whole.events.filter (·.poolStep?.isNone) ∧
      groups.flatten = hosts ∧
      (∀ g ∈ groups.dropLast, g.length = 72) ∧
      (∀ g ∈ groups, 0 < g.length ∧ g.length ≤ 72) ∧
      steps = groups.flatMap (launches 2) ∧
      (∀ n, .join n ∈ steps → 0 < n) ∧
      (∀ p, p <+: steps → outstanding p ≤ (72 * 2 : Nat)) ∧
      poolSize Settings.twoWorkers none = .ok (72 * 2 : Nat) := by
  have hidle (call : ControlCall) : Idle (Session.call .wavering Cluster.refuse call) :=
    Session.call_idle (P := fun _ => True) fun n =>
      show (World.wavering.control call n).Meets _ _ from trivial
  exact startWorkers_batched (fun _ _ _ => hidle _) (fun _ _ => hidle _) (by decide)
    (List.replicate 73 "b") _ rfl

end Dispatch

end ServerFleet
