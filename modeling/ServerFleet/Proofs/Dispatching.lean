import ServerFleet.Proofs.Following

/-!
# Dispatch follows a plan

Control calls are handed to the pool and waited for. For a crew whose steps are
accounted for, a command takes one step for every instance of a role on some
hosts, in order, and gives one outcome for each:

* `carryOut_follows`: the command for one instance, whose failure goes into the
  outcome;
* `run_follows`: for all instances on some hosts;
* `startWorkers_follows`: the same steps when workers are started in batches,
  with one barrier a batch.
-/

namespace ServerFleet.Dispatch

open Ledger (Commands)

variable {σ : Type} {crew : Crew σ} {A : Account crew}

/-- A call is handed to an open pool. -/
theorem submit_run {s : Session σ} (hopen : s.poolOpen = true) (command : Command)
    (target : Instance) : (submit command target).run s =
      ⟨.ok (target, command), s, [.pool (.submit target command)]⟩ := by
  unfold submit
  rw [Act.run_bind_of_ok (Act.run_get s)]
  simp only [hopen, if_true]
  rw [Act.run_bind_of_ok (Act.run_record _ _)]
  rfl

theorem submit_follows (command : Command) (target : Instance) :
    Follows A (submit command target) (fun _ => []) fun l call =>
      l = [] ∧ call = (target, command) := by
  intro s hs
  refine ⟨[], ?_⟩
  rw [submit_run hs]
  exact ⟨A.pool s _, hs, .refl _, .done (fun _ _ => rfl) ⟨rfl, rfl⟩⟩

theorem submit_each_follows (command : Command) (targets : List Instance) :
    Follows A (Act.each (submit command) targets) (fun _ => []) fun l calls =>
      l = [] ∧ calls = targets.map (·, command) := by
  induction targets with
  | nil => exact Follows.pure []
  | cons target targets ih =>
    refine Follows.bind (submit_follows command target)
      (R := fun call l calls => l = [] ∧ calls = call :: targets.map (·, command))
      (fun call _ _ => ?_) ?_
    · rw [map_eq_pure_bind]
      refine ih.bind_pure ?_
      rintro calls l ⟨rfl, rfl⟩
      exact ⟨rfl, rfl⟩
    · rintro call l₁ l₂ calls ⟨rfl, rfl⟩ ⟨rfl, rfl⟩
      exact ⟨rfl, rfl⟩

/-- A command for one instance is a step, sent where the dispatcher's identity
says. Whatever becomes of it goes into the outcome. -/
theorem carryOut_follows (target : Instance) (command : Command) :
    Follows A (carryOut crew.settings crew.world crew.collaborators target command)
      (fun n => [.dispatch target command (n.dispatcher.knows target.host)])
      fun l o => Commands l [o] := by
  intro s hs
  obtain ⟨world, identity, es, hask, hg, hsettles⟩ :=
    Session.asking_run crew.world target.host s
  have hfit := A.asking s target.host
  rw [hask] at hfit
  -- The step is taken in the session that the query leaves.
  generalize hs₁ : ({ s with world := world, identity := identity } : Session σ) = s₁ at *
  let step : Step := .dispatch target command (identity.knows target.host)
  have htake := A.take s₁ step
  have hpool := A.take_pool s₁ step
  have hviews := A.take_views s₁ step
  have hplan (n : Views) (hn : s₁.views.Grows n) :
      [step] = [.dispatch target command (n.dispatcher.knows target.host)] := by
    have hid : s₁.views.dispatcher = identity := by rw [← hs₁]; rfl
    show [Step.dispatch target command (identity.knows target.host)] = _
    rw [← Identity.knows_of_grows hsettles (hid ▸ hn.1)]
  have hopen : s₁.poolOpen = true := by rw [← hs₁]; exact hs
  have hcontrol : (control crew.settings crew.collaborators (identity.knows target.host) target
      command).run s₁ = (crew.take step).run s₁ := rfl
  unfold carryOut FollowsAt
  rw [Act.run_bind_of_ok hask]
  simp only [Act.run_bind, Act.after, Act.run_attempt, hcontrol]
  refine ⟨[⟨step, ((crew.take step).run s₁).result⟩], ?_⟩
  generalize (crew.take step).run s₁ = r at htake hpool hviews
  obtain ⟨result, s₂, es₂⟩ := r
  have hnote (level : Level) (text : String) :
      A.Fits s [⟨step, result⟩] (es ++ (es₂ ++ [.log level text])) s₂ :=
    A.append hfit (A.append htake (A.log s₂ level text))
  have hgrows : s.views.Grows s₂.views := by rw [hviews]; exact hg
  cases result with
  | ok _ =>
    exact ⟨hnote _ _, hpool.trans hopen, hgrows,
      .done (fun n hn => hplan n (hviews ▸ hn)) ⟨rfl, rfl, rfl⟩⟩
  | error e =>
    exact ⟨hnote _ _, hpool.trans hopen, hgrows,
      .done (fun n hn => hplan n (hviews ▸ hn)) ⟨rfl, rfl, rfl⟩⟩

theorem join_follows (calls : List (Instance × Command)) :
    Follows A (join crew.settings crew.world crew.collaborators calls)
      (fun n => calls.flatMap fun call =>
        [.dispatch call.1 call.2 (n.dispatcher.knows call.1.host)]) Commands := by
  have heach := Follows.each (fun o => [o])
    (fun call : Instance × Command => carryOut_follows (A := A) call.1 call.2) calls
  refine (heach.bind (q := fun _ => []) (R := fun os l ys => l = [] ∧ ys = os)
    (fun os _ _ => Follows.record_bind (A.pool · _) (Follows.pure os)) ?_).congr
    fun n => List.append_nil _
  rintro os l₁ l₂ ys ⟨h, -⟩ ⟨rfl, rfl⟩
  simpa [List.flatMap_singleton'] using h

/-- A command for a role on some hosts takes a step for every instance. -/
theorem run_follows (role : Role) (hosts : List String) (command : Command) :
    Follows A (run crew.settings crew.world crew.collaborators role hosts command)
      (fun n => Plan.tell crew.scope n command role hosts) Commands := by
  have hplan (n : Views) :
      (([] : List Step) ++ ((hosts.flatMap (instances crew.settings role)).map
        (·, command)).flatMap fun call =>
          [Step.dispatch call.1 call.2 (n.dispatcher.knows call.1.host)]) =
      Plan.tell crew.scope n command role hosts := by
    rw [List.nil_append, List.flatMap_map, List.flatMap_assoc]
    refine congrArg (List.flatMap · hosts) (funext fun host => ?_)
    rw [instances, Plan.onHost_eq_instances, ← List.map_eq_flatMap]
    refine List.map_congr_left fun target ht => ?_
    rw [Plan.host_of_mem_instances ht]
  refine (Follows.bind (submit_each_follows command _) (R := fun _ => Commands) ?_ ?_).congr hplan
  · rintro calls l ⟨-, rfl⟩
    exact join_follows _
  · rintro calls l₁ l₂ os ⟨rfl, -⟩ h
    exact h

theorem flatten_batchesFrom {α : Type} (size room : Nat) (batch xs : List α) :
    (batchesFrom size room batch xs).flatten = batch ++ xs := by
  induction xs generalizing room batch with
  | nil =>
    rw [batchesFrom]
    split
    · rename_i h
      rw [List.isEmpty_iff.mp h]; rfl
    · simp
  | cons x xs ih =>
    rw [batchesFrom]
    split
    · rw [List.flatten_cons, ih]; simp
    · rw [ih]; simp

/-- Batches put together are the whole. -/
theorem flatten_batches {α : Type} (size : Nat) (xs : List α) : (batches size xs).flatten = xs :=
  flatten_batchesFrom size size [] xs

/-- A batch that is begun and the rest of a list make as many batches as it takes to hold
them all. -/
theorem length_batchesFrom {α : Type} {size room : Nat} {batch : List α} (hroom : 0 < room)
    (hsize : batch.length + room = size) (xs : List α) :
    (batchesFrom size room batch xs).length = (batch.length + xs.length + size - 1) / size := by
  induction xs generalizing room batch with
  | nil =>
    rw [batchesFrom]
    split
    · rename_i h
      rw [List.isEmpty_iff.mp h]
      exact (Nat.div_eq_of_lt (by simp; omega)).symm
    · rename_i h
      have hbatch : batch.length ≠ 0 := by simpa [List.isEmpty_iff] using h
      have hone : batch.length + size - 1 = size + (batch.length - 1) := by omega
      rw [List.length_nil, Nat.add_zero, hone, Nat.add_div_left _ (by omega),
        Nat.div_eq_of_lt (by omega)]
      rfl
  | cons x xs ih =>
    rw [batchesFrom]
    split
    · have hfull : batch.length + (x :: xs).length + size - 1 = size + (xs.length + size - 1) := by
        rw [List.length_cons]
        omega
      have hrest : (batchesFrom size size [] xs).length = (0 + xs.length + size - 1) / size :=
        ih (by omega) (Nat.zero_add size)
      rw [List.length_cons, hrest, hfull, Nat.add_div_left _ (by omega), Nat.zero_add]
    · have hlength : (batch ++ [x]).length = batch.length + 1 := by simp
      have hall : (batch ++ [x]).length + xs.length = batch.length + (x :: xs).length := by
        rw [hlength, List.length_cons]
        omega
      rw [ih (by omega) (by omega), hall]

/-- There are as many batches as it takes to hold the whole. -/
theorem length_batches {α : Type} {size : Nat} (hsize : 0 < size) (xs : List α) :
    (batches size xs).length = (xs.length + size - 1) / size := by
  have h : (batchesFrom size size [] xs).length =
      (([] : List α).length + xs.length + size - 1) / size :=
    length_batchesFrom hsize (by simp) xs
  rw [batches, h, List.length_nil, Nat.zero_add]

/-- Starting workers in batches takes the steps of starting them all at once, and
waits once a batch. -/
theorem startWorkers_follows (hosts : List String) :
    Follows A (startWorkers crew.settings crew.world crew.collaborators hosts)
      (fun n => Plan.tell crew.scope n .start .worker hosts) fun l b =>
        Commands l b.outcomes ∧ b.barriers = (batches batchSize hosts).length := by
  have heach := Follows.each id (fun batch => run_follows (A := A) .worker batch .start)
    (batches batchSize hosts)
  refine (heach.bind_pure ?_).congr fun n => ?_
  · rintro parts l ⟨h, hlen⟩
    exact ⟨by simpa using h, hlen⟩
  · conv => rhs; rw [← flatten_batches batchSize hosts]
    simp only [Plan.tell, List.flatMap_def, List.map_flatten, List.flatten_flatten, List.map_map,
      Function.comp_def]

end ServerFleet.Dispatch
