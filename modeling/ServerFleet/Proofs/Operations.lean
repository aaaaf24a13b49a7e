import ServerFleet.Proofs.Dispatching

/-!
# Operations follow their plans

Each operation takes the steps of its plan in order, whatever they come to, and
its report is the tally of their entries (`carryOut_follows`). It stops early only
after a failure that the failed step does not handle.
-/

namespace ServerFleet.Sequence

open Ledger (Commands tally)

variable {σ : Type} {crew : Crew σ} {A : Account crew}

/-! ## The parts of operations -/

theorem sweep_follows (roles : List Role) (c : Command) :
    Follows A (sweep crew roles c) (fun n => Plan.tellAll crew.scope n c roles) Commands := by
  have heach := Follows.each id
    (fun role => Dispatch.run_follows (A := A) role (crew.topology.hosts role) c) roles
  unfold sweep
  rw [map_eq_pure_bind]
  refine heach.bind_pure ?_
  rintro os l ⟨h, -⟩
  simpa using h

/-- An action that is one step, and only whose unhandled failures go further. -/
theorem succeeds_follows (step : Step) {kind : ReportKind} {level : Level}
    {text : Failure → String} (hk : ∀ e, step.Handles e ↔ e.kind = .reported kind) :
    Follows A (succeeds kind (crew.take step) fun e => Act.log level (text e))
      (fun _ => [step]) fun l ok => ∃ r, l = [⟨step, r⟩] ∧ ok = succeeded r := by
  intro s hs
  have htake := A.take s step
  have hpool := A.take_pool s step
  have hviews := A.take_views s step
  refine ⟨[⟨step, ((crew.take step).run s).result⟩], ?_⟩
  unfold succeeds
  simp only [Act.run_bind, Act.after, Act.run_attempt]
  generalize (crew.take step).run s = r at htake hpool hviews
  obtain ⟨result, s', es⟩ := r
  have hgrows : s.views.Grows s'.views := by rw [hviews]; exact .refl _
  cases result with
  | ok _ =>
    rw [Act.run_pure, List.append_nil]
    exact ⟨htake, hpool.trans hs, hgrows, .done (fun _ _ => rfl) ⟨_, rfl, rfl⟩⟩
  | error e =>
    dsimp only
    by_cases he : e.kind = .reported kind
    · rw [if_pos he, Act.run_bind_of_ok (Act.run_log level (text e) s')]
      have hnote := A.append htake (A.log s' level (text e))
      exact ⟨hnote, hpool.trans hs, hgrows, .done (fun _ _ => rfl) ⟨_, rfl, rfl⟩⟩
    · rw [if_neg he, Act.run_fail, List.append_nil]
      exact ⟨htake, hpool.trans hs, hgrows, .broken [] (fun _ _ => List.prefix_refl _)
        rfl (mt (hk e).mp he)⟩

theorem purge_follows (roles : List Role) :
    Follows A (purge crew roles) (fun _ => [.purge roles]) fun l ok =>
      ∃ r, l = [⟨.purge roles, r⟩] ∧ ok = succeeded r :=
  Follows.log_bind (succeeds_follows (.purge roles) fun _ => Iff.rfl)

theorem setGoal_follows (goal : String) :
    Follows A (setGoal crew goal) (fun _ => [.request (.setGoal goal)]) fun l ok =>
      ∃ r, l = [⟨.request (.setGoal goal), r⟩] ∧ ok = succeeded r :=
  succeeds_follows (.request (.setGoal goal)) fun _ => Iff.rfl

theorem requestStop_follows :
    Follows A (requestStop crew) (fun _ => [.request .stopAll]) fun l ok =>
      ∃ r, l = [⟨.request .stopAll, r⟩] ∧ ok = succeeded r := by
  refine ((succeeds_follows (.request .stopAll) fun _ => Iff.rfl).bind
    (q := fun _ => []) (R := fun ok l y => l = [] ∧ y = ok) (fun ok _ _ => ?_) ?_).congr
    fun _ => List.append_nil _
  · cases ok
    · exact Follows.pure false
    · exact Follows.log_bind (Follows.pure true)
  · rintro ok l₁ l₂ y ⟨r, rfl, rfl⟩ ⟨rfl, rfl⟩
    exact ⟨r, rfl, rfl⟩

/-- A wait is a step that handles no failure. -/
theorem sleep_follows (seconds : Float) :
    Follows A (crew.collaborators.sleep seconds) (fun _ => [.wait seconds]) fun l _ =>
      ∃ r, l = [⟨.wait seconds, r⟩] := by
  intro s hs
  have htake := A.take s (.wait seconds)
  have hpool := A.take_pool s (.wait seconds)
  have hviews := A.take_views s (.wait seconds)
  refine ⟨[⟨.wait seconds, ((crew.take (.wait seconds)).run s).result⟩], ?_⟩
  rw [show crew.collaborators.sleep seconds = crew.take (.wait seconds) from rfl]
  generalize (crew.take (.wait seconds)).run s = r at htake hpool hviews
  obtain ⟨result, s', es⟩ := r
  refine ⟨htake, hpool.trans hs, by rw [hviews]; exact .refl _, ?_⟩
  cases result with
  | ok _ => exact .done (fun _ _ => rfl) ⟨_, rfl⟩
  | error e => exact .broken [] (fun _ _ => List.prefix_refl _) rfl id

/-- The first host among some that is this machine is found without a step. -/
theorem firstLocalOf_run (hosts : List String) (s : Session σ) : ∃ s' es,
    (firstLocalOf crew hosts).run s =
      ⟨.ok (hosts.find? s'.views.sequence.knows), s', es⟩ ∧
    A.Fits s [] es s' ∧ s'.poolOpen = s.poolOpen ∧ s.views.Grows s'.views ∧
    ∀ n, s'.views.Grows n →
      hosts.find? n.sequence.knows = hosts.find? s'.views.sequence.knows := by
  induction hosts generalizing s with
  | nil =>
    refine ⟨s, [], ?_, A.nil s, rfl, .refl _, fun _ _ => ?_⟩
    · simp only [firstLocalOf, Act.run_pure, List.find?_nil]
    · simp only [List.find?_nil]
  | cons host hosts ih =>
    obtain ⟨s₁, es₁, hask, hg₁, hsettles, hpool₁⟩ := Session.askingOwn_run crew.world host s
    have hfit₁ := A.askingOwn s host
    rw [hask] at hfit₁
    unfold firstLocalOf
    rw [Act.run_bind_of_ok hask]
    by_cases hl : s₁.views.sequence.knows host = true
    · refine ⟨s₁, es₁, ?_, hfit₁, hpool₁, hg₁, fun n hn => ?_⟩
      · simp [hl]
      · rw [List.find?_cons_of_pos hl,
          List.find?_cons_of_pos ((Identity.knows_of_grows hsettles hn.2).trans hl)]
    · obtain ⟨s₂, es₂, hrun, hfit₂, hpool₂, hg₂, hfind⟩ := ih s₁
      have hskip (n : Views) (hn : s₁.views.Grows n) :
          (host :: hosts).find? n.sequence.knows = hosts.find? n.sequence.knows :=
        List.find?_cons_of_neg (by rw [Identity.knows_of_grows hsettles hn.2]; exact hl)
      refine ⟨s₂, es₁ ++ es₂, ?_, A.append hfit₁ hfit₂, hpool₂.trans hpool₁, hg₁.trans hg₂,
        fun n hn => ?_⟩
      · rw [hskip _ hg₂]
        simp [hl, hrun]
      · rw [hskip n (hg₂.trans hn), hskip _ hg₂, hfind n hn]

/-- What is done with the first host of a role that is this machine follows the plan
for the host that is found. -/
theorem firstLocal_follows {α : Type} {role : Role} {f : Option String → Act (Session σ) α}
    {p : Option String → Views → List Step} {Q : List Entry → α → Prop}
    (hf : ∀ host, Follows A (f host) (p host) Q) :
    Follows A (firstLocal crew role >>= f)
      (fun n => p (Plan.localHost? crew.scope n role) n) Q := by
  intro s hs
  obtain ⟨s', es, hrun, hfit, hpool, hg, hfind⟩ :=
    firstLocalOf_run (A := A) (crew.topology.hosts role) s
  obtain ⟨l, hfit', hpool', hg', hk⟩ :=
    hf ((crew.topology.hosts role).find? s'.views.sequence.knows) s' (hpool.trans hs)
  refine ⟨l, ?_⟩
  rw [Act.run_bind_of_ok (show (firstLocal crew role).run s = _ from hrun)]
  refine ⟨A.append hfit hfit', hpool', hg.trans hg', hk.imp (fun n hn => ?_) fun _ => id⟩
  exact congrArg (p · n) (hfind n (hg'.trans hn)).symm

theorem commandHere_follows (c : Command) (role : Role) :
    Follows A (commandHere crew c role) (fun n => Plan.tellHere crew.scope n c role)
      Commands := by
  refine firstLocal_follows (p := fun host n => Plan.tellAt crew.scope n c role host)
    fun host => ?_
  cases host with
  | some host => exact Dispatch.run_follows role [host] c
  | none =>
    refine (Follows.pure []).imp ?_
    rintro l os ⟨rfl, rfl⟩
    exact .nil

theorem commandHere_each_follows (c : Command) (roles : List Role) :
    Follows A (Act.each (commandHere crew c) roles)
      (fun n => roles.flatMap (Plan.tellHere crew.scope n c))
      fun l os => Commands l os.flatten := by
  refine (Follows.each id (commandHere_follows c) roles).imp ?_
  rintro l os ⟨h, -⟩
  simpa using h

/-! ## Reports -/

/-- The report of an action is `base` with the tally of the action's entries merged
into it. -/
def Reports (A : Account crew) (a : Act (Session σ) Report) (p : Views → List Step)
    (base : Report) (barriers : Int) : Prop :=
  Follows A a p fun l r => r = base.merge (tally base.operation barriers l)

theorem merge_tally_append (base : Report) (o o' o'' : String) (b₁ b₂ : Int) (l₁ l₂ : List Entry) :
    (base.merge (tally o b₁ l₁)).merge (tally o' b₂ l₂) =
      base.merge (tally o'' (b₁ + b₂) (l₁ ++ l₂)) := by
  rw [Report.merge_assoc, Ledger.tally_merge]
  rfl

theorem Reports.bind {α : Type} {a : Act (Session σ) α} {f : α → Act (Session σ) Report}
    {p q : Views → List Step} {base : Report} {part : α → Report} {b₁ b₂ : Int}
    (h : Follows A a p fun l x => ∃ o, part x = tally o b₁ l)
    (hf : ∀ x, Reports A (f x) q (base.merge (part x)) b₂) :
    Reports A (a >>= f) (fun n => p n ++ q n) base (b₁ + b₂) := by
  refine Follows.bind h (fun x _ _ => hf x) ?_
  rintro x l₁ l₂ r ⟨o, ho⟩ rfl
  rw [ho]
  exact merge_tally_append ..

theorem Reports.bind_pure {α : Type} {a : Act (Session σ) α} {g : α → Report}
    {p : Views → List Step} {base : Report} {part : α → Report} {b : Int}
    (h : Follows A a p fun l x => ∃ o, part x = tally o b l)
    (hg : ∀ x, g x = base.merge (part x)) :
    Reports A (a >>= fun x => Pure.pure (g x)) p base b := by
  refine Follows.bind_pure h ?_
  rintro x l ⟨o, ho⟩
  rw [hg x, ho]
  rfl

/-- The report that a whole operation starts from is empty. -/
theorem Reports.follows {a : Act (Session σ) Report} {p : Views → List Step} {o : String} {b : Int}
    (h : Reports A a p { operation := o } b) : Follows A a p fun l r => r = tally o b l := by
  refine Follows.imp h ?_
  rintro l r rfl
  rw [← Ledger.tally_nil, Ledger.tally_merge, Int.zero_add, List.nil_append]

/-- Commands report their outcomes. -/
theorem Commands.part {a : Act (Session σ) (List Outcome)} {p : Views → List Step}
    (h : Follows A a p Commands) :
    Follows A a p fun l os => ∃ o, ({ operation := "", outcomes := os } : Report) = tally o 0 l :=
  h.imp fun _ _ hc => ⟨"", (hc.tally_eq "" 0).symm⟩

theorem purge_part (roles : List Role) :
    Follows A (purge crew roles) (fun _ => [.purge roles]) fun l ok =>
      ∃ o, ({ operation := "", purgeOk := some ok } : Report) = tally o 0 l := by
  refine (purge_follows roles).imp ?_
  rintro l ok ⟨r, rfl, rfl⟩
  exact ⟨"", rfl⟩

theorem sleep_part (seconds : Float) :
    Follows A (crew.collaborators.sleep seconds) (fun _ => [.wait seconds]) fun l _ =>
      ∃ o, ({ operation := "" } : Report) = tally o 0 l := by
  refine (sleep_follows seconds).imp ?_
  rintro l _ ⟨r, rfl⟩
  exact ⟨"", rfl⟩

theorem whole_part {a : Act (Session σ) Report} {p : Views → List Step} {o : String} {b : Int}
    (h : Follows A a p fun l r => r = tally o b l) :
    Follows A a p fun l r => ∃ o, id r = tally o b l := h.imp fun _ _ hr => ⟨o, hr⟩

/-! ## Operations -/

theorem startWorkers_follows :
    Follows A (startWorkers crew) (fun n => Plan.startWorkers crew.scope n) fun l r =>
      r = tally Operation.startWorkers.name (Plan.barriers crew.topology .startWorkers) l := by
  refine Follows.log_bind ((Dispatch.startWorkers_follows crew.topology.workers).bind_pure ?_)
  rintro b l ⟨h, hb⟩
  rw [h.tally_eq, hb]
  rfl

theorem startAll_follows :
    Follows A (startAll crew) (fun n => Plan.startAll crew.scope n) fun l r =>
      r = tally Operation.startAll.name (Plan.barriers crew.topology .startAll) l := by
  have h : Reports A (startAll crew) (fun n => Plan.startAll crew.scope n)
      { operation := Operation.startAll.name } (Plan.barriers crew.topology .startWorkers + 0) :=
    Reports.bind (whole_part startWorkers_follows) fun workers =>
      Reports.bind_pure (Commands.part (sweep_follows Role.singletons .start)) fun os => by
        simp [Report.merge, allOk]
  exact h.follows

theorem stopWorkers_follows :
    Follows A (stopWorkers crew) (fun n => Plan.stopWorkers crew.scope n) fun l r =>
      r = tally Operation.stopWorkers.name 0 l := by
  refine Follows.log_bind (Reports.follows (b := 0 + (0 + (0 + 0))) ?_)
  exact
    Reports.bind (Commands.part (Dispatch.run_follows .worker _ .stop)) fun stopped =>
    Reports.bind (sleep_part _) fun _ =>
    Reports.bind (Commands.part (Dispatch.run_follows .worker _ .kill)) fun killed =>
    Reports.bind_pure (purge_part [.worker]) fun purged => by simp [Report.merge, allOk]

theorem requestStop_part :
    Follows A (requestStop crew) (fun _ => [.request .stopAll]) fun l ok =>
      ∃ o, ({ operation := "", adminOk := some ok } : Report) = tally o 0 l := by
  refine requestStop_follows.imp ?_
  rintro l ok ⟨r, rfl, rfl⟩
  exact ⟨"", rfl⟩

/-- The sweeps of the escalation, one after the other. -/
theorem escalation_part (roles : List Role) :
    Follows A (Act.each (sweep crew roles) escalation)
      (fun n => Plan.tellAll crew.scope n .stop roles ++ Plan.tellAll crew.scope n .kill roles)
      fun l os => ∃ o, ({ operation := "", outcomes := os.flatten } : Report) = tally o 0 l := by
  have heach := Follows.each id (fun c => sweep_follows (A := A) roles c) escalation
  refine (heach.imp ?_).congr fun n => by simp [escalation]
  rintro l os ⟨h, -⟩
  exact ⟨"", by rw [h.tally_eq]; simp⟩

theorem stopAll_follows :
    Follows A (stopAll crew) (fun n => Plan.stopAll crew.scope n) fun l r =>
      r = tally Operation.stopAll.name 0 l := by
  have h : Reports A (stopAll crew) (fun n => [.request .stopAll] ++
      ([.wait crew.settings.adminGrace] ++
        (Plan.tellAll crew.scope n .stop Role.singletons ++
          Plan.tellAll crew.scope n .kill Role.singletons ++
          (Plan.stopWorkers crew.scope n ++ [.purge [.coordinator, .worker, .tracer]]))))
      { operation := Operation.stopAll.name } (0 + (0 + (0 + (0 + 0)))) :=
    Reports.bind requestStop_part fun requested =>
    Reports.bind (sleep_part _) fun _ =>
    Reports.bind (escalation_part Role.singletons) fun swept =>
    Reports.bind (whole_part stopWorkers_follows) fun workers =>
    Reports.bind_pure (purge_part _) fun purged => by
      simp [Report.merge, none_allOk, allOk_none]
  refine h.follows.congr fun n => ?_
  simp [Plan.stopAll, Plan.singletons, Role.singletons, Crew.scope]

theorem killAll_follows :
    Follows A (killAll crew) (fun n => Plan.killAll crew.scope n) fun l r =>
      r = tally Operation.killAll.name 0 l := by
  have h : Reports A (killAll crew)
      (fun n => Plan.tellAll crew.scope n .kill (Role.singletons ++ [.worker]) ++
        [.purge [.coordinator, .worker]])
      { operation := Operation.killAll.name } (0 + 0) :=
    Reports.bind (Commands.part (sweep_follows _ .kill)) fun os =>
    Reports.bind_pure (purge_part _) fun purged => by simp [Report.merge, allOk]
  exact h.follows

theorem restart_follows :
    Follows A (restart crew) (fun n => Plan.restart crew.scope n) fun l r =>
      r = tally Operation.restart.name (Plan.barriers crew.topology .restart) l := by
  have h : Reports A (restart crew) (fun n => Plan.restart crew.scope n)
      { operation := Operation.restart.name } (0 + Plan.barriers crew.topology .startAll) :=
    Reports.bind (whole_part stopAll_follows) fun stopped =>
    Reports.bind_pure (whole_part startAll_follows) fun started => rfl
  rw [Int.zero_add] at h
  exact h.follows

theorem startHere_follows :
    Follows A (startHere crew) (fun n => Plan.startHere crew.scope n) fun l r =>
      r = tally Operation.startHere.name 0 l := by
  refine (commandHere_each_follows .start localStartOrder).bind_pure fun os l h => ?_
  rw [h.tally_eq]

/-- The worker on this machine is asked to stop, if there is one. -/
theorem requestStopHere_part :
    Follows A (requestStopHere crew)
      (fun n => ((Plan.localHost? crew.scope n .worker).map fun host =>
        Step.request (.stopWorker host)).toList)
      fun l ok => ∃ o, ({ operation := "", adminOk := ok } : Report) = tally o 0 l := by
  refine firstLocal_follows (p := fun host _ => (host.map fun host =>
    Step.request (.stopWorker host)).toList) fun host => ?_
  cases host with
  | none =>
    refine (Follows.pure none).imp ?_
    rintro l ok ⟨rfl, rfl⟩
    exact ⟨"", rfl⟩
  | some host =>
    dsimp only
    rw [map_eq_pure_bind]
    refine Follows.bind_pure (succeeds_follows (.request (.stopWorker host)) fun _ => Iff.rfl) ?_
    rintro ok l ⟨r, rfl, rfl⟩
    exact ⟨"", rfl⟩

theorem stopHere_follows :
    Follows A (stopHere crew) (fun n => Plan.stopHere crew.scope n) fun l r =>
      r = tally Operation.stopHere.name 0 l := by
  have hround (c : Command) : Follows A
      (List.flatten <$> Act.each (commandHere crew c) localStopOrder)
      (fun n => Plan.localStops.flatMap (Plan.tellHere crew.scope n c)) Commands := by
    rw [map_eq_pure_bind]
    exact (commandHere_each_follows c localStopOrder).bind_pure fun _ _ h => h
  have hboth : Follows A
      (Act.each (fun c => List.flatten <$> Act.each (commandHere crew c) localStopOrder) escalation)
      (fun n => Plan.localStops.flatMap (Plan.tellHere crew.scope n .stop) ++
        Plan.localStops.flatMap (Plan.tellHere crew.scope n .kill))
      fun l os => ∃ o, ({ operation := "", outcomes := os.flatten } : Report) = tally o 0 l := by
    have heach := Follows.each id hround escalation
    refine (heach.imp ?_).congr fun n => by simp [escalation]
    rintro l os ⟨h, -⟩
    exact ⟨"", by rw [h.tally_eq]; simp⟩
  refine Follows.congr (Reports.follows (b := 0 + 0) ?_) fun n => (List.append_assoc ..).symm
  exact
    Reports.bind requestStopHere_part fun requested =>
    Reports.bind_pure hboth fun os => by simp [Report.merge, none_allOk, allOk_comm requested]

/-- Every operation takes the steps of its plan, and its report is the tally of
their entries. -/
theorem carryOut_follows (o : Operation) :
    Follows A (carryOut crew o) (fun n => Plan.of crew.scope n o) fun l r =>
      r = tally o.name (Plan.barriers crew.topology o) l := by
  cases o with
  | startAll => exact startAll_follows
  | startWorkers => exact startWorkers_follows
  | stopAll => exact stopAll_follows
  | stopWorkers => exact stopWorkers_follows
  | killAll => exact killAll_follows
  | restart => exact restart_follows
  | startHere => exact startHere_follows
  | stopHere => exact stopHere_follows

/-- A fleet is started with its goal set first. -/
theorem setGoal_startAll_follows :
    Follows A (do
      let _ ← setGoal crew normalGoal
      startAll crew)
      (fun n => [.request (.setGoal normalGoal)] ++ Plan.startAll crew.scope n)
      fun _ _ => True :=
  Follows.bind (setGoal_follows normalGoal) (fun _ _ _ => startAll_follows)
    fun _ _ _ _ _ _ => trivial

end ServerFleet.Sequence
