import ServerFleet.Console
import ServerFleet.Proofs.Bounds
import ServerFleet.Proofs.Loading
import ServerFleet.Proofs.Verdicts

/-!
# How requests are served

A request to the command line is served in one of three ways (`Console.Served`): the run
is halted and tells what it did or which problem the configuration has, it is halted by
an obstacle, or an operation on the fleet is carried out to its end. A run that is
halted has asked the world for nothing (`Console.Halted`).

An `Obstacle` is a failure that requests do not deal with: hosts files that cannot be
read or written, an administrative command that cannot be read as words, and a table
that cannot be printed.
-/

namespace ServerFleet

variable {σ α : Type}

/-! ## Errands that are counted -/

namespace Errand

/-- Whether the errand is a command for an instance. -/
def isCommand (e : Errand) : Bool := e.verdict?.isSome

/-- Whether the errand is a command for an instance that did not end well. -/
def isFailedCommand (e : Errand) : Bool := e.isCommand && !e.isOk

end Errand

namespace Report.Tells

variable {report : Report} {errands : List Errand} (h : report.Tells errands)

include h

theorem length_outcomes : report.outcomes.length = errands.countP Errand.isCommand := by
  rw [← List.length_map Outcome.verdict, h.outcomes, List.length_filterMap_eq_countP]
  rfl

theorem length_failures : report.failures.length = errands.countP Errand.isFailedCommand := by
  have hmap : report.outcomes.countP (fun o => !o.isOk) =
      (report.outcomes.map Outcome.verdict).countP fun v => !v.2.2.2 := by
    rw [List.countP_map]
    rfl
  rw [failures, ← List.countP_eq_length_filter, hmap, h.outcomes, List.countP_filterMap]
  refine List.countP_congr fun e _ => ?_
  obtain ⟨⟨step, result⟩, xs⟩ := e
  cases step <;> simp [Errand.isFailedCommand, Errand.isCommand, Errand.verdict?]

end Report.Tells

namespace Cluster

variable (w : World σ) (env : Environment) {values : Entries} {settings : Settings}
  (topology : Topology)

/-- A cluster on the system can be built from good settings just if the administrative
command can be read as words. -/
theorem onSystem_of_construct (hs : Settings.construct values = .ok settings) :
    onSystem w env settings topology false =
      (fun a => ⟨settings, topology, w, Collaborators.onSystem w env settings a, false⟩) <$>
        Administration.ofSettings env settings := by
  rw [onSystem, (Settings.inBounds_of_construct hs).poolSize_eq]
  rfl

end Cluster

namespace Console

/-! ## Runs that are halted -/

section

variable {ending : Failure → Ending} {a : Act (Site σ) α} {f : α → Act (Site σ) Ending}
  {s : Site σ}

theorem orEnd_run_ok {x : α} (h : (a.run s).result = .ok x) :
    (orEnd ending a f).run s =
      let next := (f x).run (a.run s).state
      ⟨next.result, next.state, (a.run s).events ++ next.events⟩ := by
  rw [orEnd, Act.run_bind_of_ok (Act.run_attempt a s), h]

theorem orEnd_run_error {e : Failure} (h : (a.run s).result = .error e) :
    (orEnd ending a f).run s = ⟨.ok (ending e), (a.run s).state, (a.run s).events⟩ := by
  rw [orEnd, Act.run_bind_of_ok (Act.run_attempt a s), h]
  simp

end

/-- The run ended as said, and it had changed files at most and written to the log. -/
structure Halted (s : Site σ) (r : Ran (Site σ) Ending) (ending : Ending) : Prop where
  result : r.result = .ok ending
  world : r.state.world = s.world
  logged : ∀ e ∈ r.events, e.IsLog

theorem Halted.pure (s : Site σ) (ending : Ending) :
    Halted s ((pure ending : Act (Site σ) Ending).run s) ending :=
  ⟨rfl, rfl, fun _ h => absurd h List.not_mem_nil⟩

section

variable {F : Failure → Prop} {a : Act FileTree α} {f : α → Act (Site σ) Ending}
  {ending : Failure → Ending} {s : Site σ}

/-- A problem with the files halts the run. -/
theorem Halted.of_error (ha : a.Confined F) {e : Failure}
    (h : (a.run s.tree).result = .error e) :
    Halted s ((orEnd ending (onFiles a) f).run s) (ending e) := by
  rw [orEnd_run_error (a := onFiles a) h]
  exact ⟨rfl, rfl, (ha s.tree).1⟩

/-- A run that is halted once the files are dealt with. -/
theorem Halted.of_ok (ha : a.Confined F) {x : α} {e : Ending}
    (h : (a.run s.tree).result = .ok x)
    (hf : Halted ⟨(a.run s.tree).state, s.world⟩
      ((f x).run ⟨(a.run s.tree).state, s.world⟩) e) :
    Halted s ((orEnd ending (onFiles a) f).run s) e := by
  rw [orEnd_run_ok (a := onFiles a) h]
  exact ⟨hf.result, hf.world, fun e he =>
    (List.mem_append.mp he).elim ((ha s.tree).1 e) (hf.logged e)⟩

end

/-! ## Obstacles -/

/-- What a request does with the hosts files. -/
def Request.onHosts (settings : Settings) : Request → Act FileTree Unit
  | .help => pure ()
  | .createConfig host overwrite =>
    (fun _ => ()) <$> Resolution.createDefaults (DirectoryStore.store settings.confDir) host overwrite
  | .show | .operate _ =>
    (fun _ => ()) <$> Resolution.load (DirectoryStore.store settings.confDir)

/-- A topology that is loaded is what the files come to. -/
theorem Request.onHosts_of_load {settings : Settings} {t : FileTree} {topology : Topology}
    (h : ((Resolution.load (DirectoryStore.store settings.confDir)).run t).result = .ok topology) :
    ((Request.show.onHosts settings).run t).result = .ok () := by
  show (fun _ => ()) <$> Ran.result _ = _
  rw [h]
  rfl

/-- What a request meets with that it does not deal with. -/
inductive Obstacle (w : World σ) (settings : Settings) (t : FileTree) : Request → Failure → Prop
  /-- The hosts files cannot be read or written. -/
  | files {request : Request} {e : Failure}
      (fails : ((request.onHosts settings).run t).result = .error e) (raw : e.OfFiles) :
      Obstacle w settings t request e
  /-- The administrative command cannot be read as words. -/
  | command {o : Operation} {fault : Text.Shell.Fault}
      (loads : (((Request.operate o).onHosts settings).run t).result = .ok ())
      (unreadable : Text.Shell.split settings.adminCommand = .error fault) :
      Obstacle w settings t (.operate o) (.commandLine fault)
  /-- The table of the topology cannot be printed. -/
  | table {topology : Topology} {e : Failure}
      (loads : ((Resolution.load (DirectoryStore.store settings.confDir)).run t).result =
        .ok topology)
      (unprintable : w.draw (topologyTable settings topology) = .error e) :
      Obstacle w settings t .show e

namespace Obstacle

variable {w : World σ} {settings : Settings} {t : FileTree} {request : Request} {e : Failure}

/-- There is none but with the files if these cannot be dealt with. -/
theorem of_error (h : Obstacle w settings t request e) {e' : Failure}
    (hfails : ((request.onHosts settings).run t).result = .error e') : e = e' ∧ e.OfFiles := by
  cases h with
  | files fails raw => exact ⟨Except.error.inj (fails.symm.trans hfails), raw⟩
  | command loads unreadable => cases loads.symm.trans hfails
  | table loads unprintable => cases (Request.onHosts_of_load loads).symm.trans hfails

/-- A request meets with one obstacle at most. -/
theorem unique (h : Obstacle w settings t request e) {e' : Failure}
    (h' : Obstacle w settings t request e') : e = e' := by
  cases h with
  | files fails raw => exact (h'.of_error fails).1.symm
  | command loads unreadable =>
    cases h' with
    | files fails raw => cases loads.symm.trans fails
    | command loads' unreadable' =>
      rw [Except.error.inj (unreadable.symm.trans unreadable')]
  | table loads unprintable =>
    cases h' with
    | files fails raw => cases (Request.onHosts_of_load loads).symm.trans fails
    | table loads' unprintable' =>
      obtain rfl := Except.ok.inj (loads.symm.trans loads')
      exact Except.error.inj (unprintable.symm.trans unprintable')

/-- A problem of the configuration is none. -/
theorem not_of_configuration {p : ConfigurationProblem}
    (h : ((request.onHosts settings).run t).result = .error (.configuration p)) :
    ¬ Obstacle w settings t request e := by
  intro hobstacle
  obtain ⟨rfl, raw⟩ := hobstacle.of_error h
  exact raw

/-- There is none if the files are dealt with, the command can be read and the table can be
printed. -/
theorem not_of_ok (h : ((request.onHosts settings).run t).result = .ok ())
    (hwords : ∀ o, request = .operate o → ∃ words, Text.Shell.split settings.adminCommand = .ok words)
    (hdraw : request = .show → ∀ topology,
      ((Resolution.load (DirectoryStore.store settings.confDir)).run t).result = .ok topology →
        w.draw (topologyTable settings topology) = .ok ()) :
    ¬ Obstacle w settings t request e := by
  rintro (⟨fails, raw⟩ | ⟨loads, unreadable⟩ | ⟨loads, unprintable⟩)
  · cases fails.symm.trans h
  · obtain ⟨words, hsplit⟩ := hwords _ rfl
    cases hsplit.symm.trans unreadable
  · cases (hdraw rfl _ loads).symm.trans unprintable

end Obstacle

theorem endWith_of_files {e : Failure} (h : e.OfFiles) : endWith e = escapeWith e := by
  cases e with
  | file problem path => cases problem <;> rfl
  | undecodable fault => rfl
  | _ => exact h.elim

/-! ## Requests -/

/-- The run succeeded, or it told of an error. -/
structure Ending.Told (e : Ending) : Prop where
  escaped : e.escaped = none
  exit : e.exit = 0 ∨ e.exit = 1 ∧ ∃ message, e.stderr = "ERROR: " ++ message

/-- An operation on the fleet was carried out by these errands, from a site at which it
was asked for. -/
structure Dispatched (w : World σ) (env : Environment) (settings : Settings) (o : Operation)
    (s : Site σ) (topology : Topology) (a : Administration) (v : Views) (errands : List Errand)
    (r : Ran (Site σ) Ending) : Prop where
  loaded : ((Resolution.load (DirectoryStore.store settings.confDir)).run s.tree).result =
    .ok topology
  words : Administration.ofSettings env settings = .ok a
  steps : errands.map (·.step) = Plan.of
    ⟨topology, settings.workersPerHost, settings.adminGrace, settings.workerGrace⟩ v o
  transcript : Transcript w s.world (errands.flatMap Errand.exchanges) r.state.world
  calls : r.events.filterMap Event.systemCall? =
    (errands.flatMap Errand.exchanges).map Exchange.call
  made : ∀ e ∈ errands, e.Made w env settings a

/-- What is printed of the errands of an operation. -/
def counted (o : Operation) (errands : List Errand) : String :=
  o.name ++ ": " ++ toString (errands.countP Errand.isCommand) ++ " dispatched, " ++
    toString (errands.countP Errand.isFailedCommand) ++ " failed\n"

/-- The ways in which the run of a request ends. -/
inductive Served (w : World σ) (env : Environment) (settings : Settings) (request : Request)
    (s : Site σ) (r : Ran (Site σ) Ending) : Prop
  | told {ending : Ending} (halted : Halted s r ending) (told : ending.Told)
      (refused : ∀ o, request = .operate o → ending.exit = 1)
      (clear : ∀ e, ¬ Obstacle w settings s.tree request e)
  | escaped {ending : Ending} {e : Failure} (halted : Halted s r ending)
      (exit : ending.exit = 1) (escaped : ending.escaped = some e)
      (obstacle : Obstacle w settings s.tree request e)
  | operated {o : Operation} {topology : Topology} {a : Administration} {v : Views}
      {errands : List Errand} {ending : Ending} (asked : request = .operate o)
      (dispatched : Dispatched w env settings o s topology a v errands r)
      (result : r.result = .ok ending) (exit : ending.exit = 0) (escaped : ending.escaped = none)
      (printed : ending.stdout = counted o errands)
      (clear : ∀ e, ¬ Obstacle w settings s.tree request e)

/-- What a run passes on is the obstacle that the request meets with, and if there is none
the run succeeded or told of an error. -/
theorem Served.ends {w : World σ} {env : Environment} {settings : Settings} {request : Request}
    {s : Site σ} {r : Ran (Site σ) Ending} (h : Served w env settings request s r) :
    ∃ ending, r.result = .ok ending ∧
      (ending.escaped = none →
        ending.exit = 0 ∨ ending.exit = 1 ∧ ∃ message, ending.stderr = "ERROR: " ++ message) ∧
      ∀ e, ending.escaped = some e ↔ Obstacle w settings s.tree request e := by
  cases h with
  | @told ending halted told refused clear =>
    refine ⟨ending, halted.result, fun _ => told.exit, fun e => ?_⟩
    rw [told.escaped]
    exact ⟨nofun, fun h => absurd h (clear e)⟩
  | @escaped ending e halted exit escaped obstacle =>
    refine ⟨ending, halted.result, fun hnone => ?_, fun e' => ?_⟩
    · cases escaped.symm.trans hnone
    · rw [escaped]
      constructor
      · intro he
        obtain rfl := Option.some.inj he
        exact obstacle
      · exact fun h => congrArg some (obstacle.unique h)
  | @operated o topology a v errands ending asked dispatched result exit escaped printed clear =>
    refine ⟨ending, result, fun _ => .inl exit, fun e => ?_⟩
    rw [escaped]
    exact ⟨nofun, fun h => absurd h (clear e)⟩

/-- The summary of a report tells of the errands. -/
theorem summary_of_tells {report : Report} {errands : List Errand} (h : report.Tells errands)
    {o : Operation} (hname : report.operation = o.name) : summary report = counted o errands := by
  rw [summary, counted, hname, h.length_outcomes, h.length_failures]

variable {w : World σ} {env : Environment} {values : Entries} {settings : Settings}

/-- A problem with the hosts files ends the run. -/
theorem Served.of_error {request : Request} {s : Site σ} {r : Ran (Site σ) Ending} {e : Failure}
    (halted : Halted s r (endWith e)) (hosts : e.OfHosts)
    (fails : ((request.onHosts settings).run s.tree).result = .error e) :
    Served w env settings request s r := by
  rcases hosts with raw | ⟨p, rfl⟩
  · rw [endWith_of_files raw] at halted
    exact .escaped halted rfl rfl (.files fails raw)
  · exact .told halted ⟨rfl, .inr ⟨rfl, _, String.append_assoc⟩⟩ (fun _ _ => rfl)
      fun _ => Obstacle.not_of_configuration fails

/-- A run that goes on from a loaded topology. -/
theorem operate_run (hs : Settings.construct values = .ok settings) (o : Operation)
    {s : Site σ} {topology : Topology}
    (hload : ((loadTopology settings).run s).result = .ok topology) {a : Administration}
    (ha : Administration.ofSettings env settings = .ok a) {report : Report} :
    let k : Cluster σ := ⟨settings, topology, w, Collaborators.onSystem w env settings a, false⟩
    let loaded := (loadTopology settings).run s
    let ran := (k.carryOut o).run { world := loaded.state.world }
    ran.result = .ok report →
      (operate w env settings o).run s =
        ⟨.ok { exit := 0, stdout := summary report, stderr := warnings report },
          { loaded.state with world := ran.state.world }, loaded.events ++ ran.events⟩ := by
  intro k loaded ran hreport
  have hreport : ((inSession (k.carryOut o)).run loaded.state).result = .ok report := hreport
  have hbuild : ((Act.ofExcept (Cluster.onSystem w env settings topology false)).run
      loaded.state).result = .ok k := by
    rw [Act.run_ofExcept, Cluster.onSystem_of_construct w env topology hs, ha]
    rfl
  have hrest : (orEnd escapeWith (Act.ofExcept (Cluster.onSystem w env settings topology false))
      fun cluster => orEnd escapeWith (inSession (cluster.carryOut o)) fun report =>
        return { exit := 0, stdout := summary report, stderr := warnings report }).run
      loaded.state =
        ⟨.ok { exit := 0, stdout := summary report, stderr := warnings report },
          { loaded.state with world := ran.state.world }, ran.events⟩ := by
    rw [orEnd_run_ok hbuild, Act.run_ofExcept, orEnd_run_ok hreport]
    simp [inSession, ran]
  rw [operate, orEnd_run_ok hload, hrest]

/-- How a request is served once the hosts files are dealt with: by what comes after it, unless
there is a problem with them. -/
theorem Served.of_hosts {a : Act FileTree α} (ha : a.Confined Failure.OfHosts) {request : Request}
    (hrequest : request.onHosts settings = (fun _ => ()) <$> a)
    {f : α → Act (Site σ) Ending} {s : Site σ}
    (hserved : ∀ x, (a.run s.tree).result = .ok x →
      ((request.onHosts settings).run s.tree).result = .ok () →
        Served w env settings request s ((orEnd endWith (onFiles a) f).run s)) :
    Served w env settings request s ((orEnd endWith (onFiles a) f).run s) := by
  have hhosts : ((request.onHosts settings).run s.tree).result =
      (fun _ => ()) <$> (a.run s.tree).result := by rw [hrequest]; rfl
  rcases hresult : (a.run s.tree).result with e | x
  · have honly : OnlyFails Failure.OfHosts (a.run s.tree).result := (ha s.tree).2
    rw [hresult] at honly hhosts
    exact .of_error (.of_error ha hresult) honly hhosts
  · rw [hresult] at hhosts
    exact hserved x hresult hhosts

/-- An operation on the fleet is carried out if the topology can be loaded and the
administrative command can be read as words. -/
theorem operate_served (hw : w.Dependable) (hs : Settings.construct values = .ok settings)
    (o : Operation) (s : Site σ) :
    Served w env settings (.operate o) s ((operate w env settings o).run s) := by
  have hconfined := DirectoryStore.load_confined settings.confDir
  let loading := (Resolution.load (DirectoryStore.store settings.confDir)).run s.tree
  let t : Site σ := ⟨loading.state, s.world⟩
  refine .of_hosts hconfined rfl fun topology hload hhosts => ?_
  rcases hsplit : Text.Shell.split settings.adminCommand with fault | words
  · have hbuild : ((Act.ofExcept (Cluster.onSystem w env settings topology false)).run t).result =
        .error (.commandLine fault) := by
      rw [Act.run_ofExcept, Cluster.onSystem_of_construct w env topology hs,
        Administration.ofSettings, Dispatch.wordsOf, hsplit]
      rfl
    refine .escaped (.of_ok hconfined hload (e := escapeWith (.commandLine fault)) ?_) rfl rfl
      (.command hhosts hsplit)
    rw [orEnd_run_error hbuild]
    exact .pure t _
  · let a : Administration := ⟨words, env, some settings.adminTimeout⟩
    let k : Cluster σ := ⟨settings, topology, w, Collaborators.onSystem w env settings a, false⟩
    have ha : Administration.ofSettings env settings = .ok a := by
      rw [Administration.ofSettings, Dispatch.wordsOf, hsplit]
      rfl
    obtain ⟨report, errands, hperformed⟩ : ∃ report errands, Performed w env settings a
        (k.crew k.interrupt).scope o { world := s.world } ((k.carryOut o).run { world := s.world })
        report errands :=
      Sequence.carryOut_performed (hw k.interrupt) o rfl
    have hcalls : loading.events.filterMap Event.systemCall? = [] :=
      List.filterMap_eq_nil_iff.mpr fun e he => ((hconfined s.tree).1 e he).systemCall?_eq_none
    have hrun : (operate w env settings o).run s = _ :=
      operate_run hs o hload ha hperformed.returned
    show Served w env settings (.operate o) s ((operate w env settings o).run s)
    rw [hrun]
    refine .operated rfl ⟨hload, ha, hperformed.steps, hperformed.transcript, ?_,
      hperformed.made⟩ rfl rfl rfl (summary_of_tells hperformed.tells hperformed.name)
      fun _ => Obstacle.not_of_ok hhosts (fun _ _ => ⟨words, hsplit⟩) nofun
    exact (List.filterMap_append ..).trans ((congrArg (· ++ _) hcalls).trans hperformed.calls)

/-- The topology is shown if it can be loaded and its table can be printed. -/
theorem show_served (s : Site σ) :
    Served w env settings .show s ((carryOut w env settings .show).run s) := by
  have hconfined := DirectoryStore.load_confined settings.confDir
  let t : Site σ :=
    ⟨((Resolution.load (DirectoryStore.store settings.confDir)).run s.tree).state, s.world⟩
  refine .of_hosts hconfined rfl fun topology hload hhosts => ?_
  let shown : Ending := { exit := 0, table := some (topologyTable settings topology) }
  rcases hdraw : w.draw (topologyTable settings topology) with e | _
  · refine .escaped (.of_ok hconfined hload (e := escapeWith e) ?_) rfl rfl (.table hload hdraw)
    rw [orEnd_run_error (by rw [hdraw]; rfl)]
    exact .pure t _
  · refine .told (.of_ok hconfined hload (e := shown) ?_) ⟨rfl, .inl rfl⟩ nofun
      fun _ => Obstacle.not_of_ok hhosts nofun fun _ other hother => ?_
    · rw [orEnd_run_ok (x := ()) (by rw [hdraw]; rfl)]
      exact .pure t _
    · obtain rfl := Except.ok.inj (hload.symm.trans hother)
      exact hdraw

/-- How every request is served. -/
theorem carryOut_served (hw : w.Dependable) (hs : Settings.construct values = .ok settings)
    (request : Request) (s : Site σ) :
    Served w env settings request s ((carryOut w env settings request).run s) := by
  cases request with
  | help =>
    exact .told (.pure s _) ⟨rfl, .inl rfl⟩ nofun fun _ => Obstacle.not_of_ok rfl nofun nofun
  | createConfig host overwrite =>
    have hconfined := DirectoryStore.createDefaults_confined settings.confDir host overwrite
    refine .of_hosts hconfined rfl fun written hwritten hhosts => ?_
    exact .told (.of_ok hconfined hwritten (.pure _ _)) ⟨rfl, .inl rfl⟩ nofun
      fun _ => Obstacle.not_of_ok hhosts nofun nofun
  | «show» => exact show_served s
  | operate o => exact operate_served hw hs o s

end Console

end ServerFleet
