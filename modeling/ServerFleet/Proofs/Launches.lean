import ServerFleet.Proofs.Serving

/-!
# Launches of the program

A launch reads the arguments, configures logging, builds the settings and serves the
request.

* `launch_course`: it stops at the first of these steps that fails, or serves the request;
* `launch_fails_fast`: a launch that ends with an error has asked the world for nothing,
  and one that operates on the fleet prints how many of its commands there were and how
  many of them failed;
* `launch_escapes_iff`: a launch with good arguments succeeds or tells of an error,
  unless the log file cannot be opened or the request meets with an obstacle.
-/

namespace ServerFleet.Console

variable {σ : Type} {w : World σ} {env : Environment} {g : Globals} {name : CommandName}
  {rest args : List String} {request : Request} {s : Site σ}

/-! ## The parts of a launch -/

/-- Arguments that begin with the name of a command have no options before it. -/
theorem readHead_of_name {word : String} (hword : isOption word = false)
    (hname : commandNames.find? (·.1 = word) = some (word, name)) :
    readHead (word :: rest) = .ok (.command {} name rest) := by
  have hdash : word ≠ "--" := by
    rintro rfl
    revert hword
    decide +kernel
  have hoptions : readOptions globalOptions false (word :: rest) = .ok ([], word :: rest) := by
    simp [readOptions, hdash, hword]
  unfold readHead
  rw [hoptions]
  simp only [bind, Except.bind]
  rw [hname]
  rfl

/-- To configure logging is to open the log file, if there is one. -/
theorem configureLogging_confined (env : Environment) (g : Globals) :
    (configureLogging env g).Confined Failure.OfFiles := by
  refine Act.confined_consult fun t => ?_
  have hopen : OnlyFails Failure.OfFiles
      (Logging.openFile (g.logging.file? env) (g.logging.format env) t) := by
    unfold Logging.openFile
    split
    · trivial
    · exact ((t.openFile_onlyFails _).map _).map _
  have hconfigure : OnlyFails Failure.OfFiles
      (Logging.Logger.configure {} g.logging env t) := by
    unfold Logging.Logger.configure
    rcases hfile : Logging.openFile (g.logging.file? env) (g.logging.format env) t
      with e | ⟨files, t'⟩
    · rw [Logging.Root.configure_of_unopened id env t (.inl rfl) hfile]
      rwa [hfile] at hopen
    · rw [Logging.Root.configure_of_opened id env t (.inl rfl) hfile]
      trivial
  generalize Logging.Logger.configure {} g.logging env t = r at hconfigure
  obtain e | ⟨_, t'⟩ := r
  · exact hconfigure
  · trivial

/-- The ending as it is shown. -/
def Ending.shown (g : Globals) (e : Ending) : Ending :=
  { e.withoutSequences with logging := some g.logging }

@[simp] theorem Ending.shown_exit (g : Globals) (e : Ending) : (e.shown g).exit = e.exit := rfl

@[simp] theorem Ending.shown_escaped (g : Globals) (e : Ending) :
    (e.shown g).escaped = e.escaped := rfl

theorem Ending.Told.shown {e : Ending} (h : e.Told) (g : Globals) : (e.shown g).Told where
  escaped := h.escaped
  exit := by
    refine h.exit.imp id fun ⟨hexit, message, hstderr⟩ => ⟨hexit, Text.withoutSequences message, ?_⟩
    show Text.withoutSequences e.stderr = _
    rw [hstderr, Text.withoutSequences_append (by decide)]

/-- What is counted is shown as it is. -/
theorem counted_shown (o : Operation) (errands : List Errand) :
    Text.withoutSequences (counted o errands) = counted o errands := by
  have hnumber (n : Nat) : '\x1b' ∉ (toString n).toList :=
    fun h => absurd (Text.isDigit_of_mem_toString h) (by decide)
  have hname : '\x1b' ∉ o.name.toList := by cases o <;> decide
  refine Text.withoutSequences_eq_self ?_
  simp only [counted, String.toList_append, List.mem_append, not_or]
  exact ⟨⟨⟨⟨⟨hname, by decide⟩, hnumber _⟩, by decide⟩, hnumber _⟩, by decide⟩

/-- A launch whose log file cannot be opened. -/
theorem launch_run_unlogged (hargs : readHead args = .ok (.command g name rest)) {e : Failure}
    (hlog : ((configureLogging env g).run s.tree).result = .error e) :
    Halted s ((launch w env args).run s) (escapeWith e) := by
  rw [launch, hargs]
  exact .of_error (configureLogging_confined env g) hlog

/-- A launch once logging is configured. -/
theorem launch_run (hargs : readHead args = .ok (.command g name rest))
    (hlog : ((configureLogging env g).run s.tree).result = .ok ()) :
    (launch w env args).run s =
      let r := (runCommand w env g name rest).run
        ⟨((configureLogging env g).run s.tree).state, s.world⟩
      ⟨Ending.shown g <$> r.result, r.state, r.events⟩ := by
  rw [launch, hargs]
  dsimp only
  rw [orEnd_run_ok (a := onFiles (configureLogging env g)) hlog, run, hargs]
  exact Act.after_value _ _

section

variable {settings : Settings}

theorem runCommand_of_invalid {fault : Settings.Fault}
    (h : Settings.fromEnvironment env (overrides g) = .error fault) :
    runCommand w env g name rest =
      pure { exit := 1, stderr := complaint ("Invalid settings: " ++ fault.headline) } := by
  unfold runCommand
  rw [h]

theorem runCommand_of_usage (h : Settings.fromEnvironment env (overrides g) = .ok settings)
    {fault : UsageFault} (hrest : readRequest name rest = .error fault) :
    runCommand w env g name rest = pure (endUsage fault) := by
  unfold runCommand
  rw [h, hrest]

theorem runCommand_of_request (h : Settings.fromEnvironment env (overrides g) = .ok settings)
    (hrest : readRequest name rest = .ok request) :
    runCommand w env g name rest = carryOut w env settings request := by
  unfold runCommand
  rw [h, hrest]

end

theorem Halted.shown {r : Ran (Site σ) Ending} {ending : Ending} {t : FileTree}
    (h : Halted ⟨t, s.world⟩ r ending) (g : Globals) :
    Halted s ⟨Ending.shown g <$> r.result, r.state, r.events⟩ (ending.shown g) :=
  ⟨by rw [h.result]; rfl, h.world, h.logged⟩

/-- A request is served in the same way if its ending is shown. -/
theorem Served.shown {settings : Settings} {r : Ran (Site σ) Ending}
    (h : Served w env settings request s r) (g : Globals) :
    Served w env settings request s ⟨Ending.shown g <$> r.result, r.state, r.events⟩ := by
  cases h with
  | told halted told refused clear => exact .told (halted.shown g) (told.shown g) refused clear
  | escaped halted exit escaped obstacle => exact .escaped (halted.shown g) exit escaped obstacle
  | @operated o topology a v errands ending asked dispatched result exit escaped printed clear =>
    have hdispatched : Dispatched w env settings o s topology a v errands
        ⟨Ending.shown g <$> r.result, r.state, r.events⟩ :=
      ⟨dispatched.loaded, dispatched.words, dispatched.steps, dispatched.transcript,
        dispatched.calls, dispatched.made⟩
    have hprinted : (ending.shown g).stdout = counted o errands := by
      show Text.withoutSequences ending.stdout = _
      rw [printed, counted_shown]
    exact .operated asked hdispatched (congrArg (Ending.shown g <$> ·) result) exit escaped
      hprinted clear

/-- How far a launch comes: the log file cannot be opened, the settings are not valid, what
the command takes cannot be read, or the request is served. -/
inductive Course (w : World σ) (env : Environment) (g : Globals) (name : CommandName)
    (rest : List String) (s : Site σ) (r : Ran (Site σ) Ending) : Prop
  | unlogged {e : Failure} (fails : ((configureLogging env g).run s.tree).result = .error e)
      (halted : Halted s r (escapeWith e)) : Course w env g name rest s r
  | invalid {fault : Settings.Fault} {ending : Ending}
      (logs : ((configureLogging env g).run s.tree).result = .ok ())
      (invalid : Settings.fromEnvironment env (overrides g) = .error fault)
      (halted : Halted s r ending) (exit : ending.exit = 1) (told : ending.Told) :
      Course w env g name rest s r
  | unread {fault : UsageFault} {ending : Ending} (unread : readRequest name rest = .error fault)
      (halted : Halted s r ending) : Course w env g name rest s r
  | served {settings : Settings} {request : Request}
      (logs : ((configureLogging env g).run s.tree).result = .ok ())
      (valid : Settings.fromEnvironment env (overrides g) = .ok settings)
      (read : readRequest name rest = .ok request)
      (served : Served w env settings request
        ⟨((configureLogging env g).run s.tree).state, s.world⟩ r) :
      Course w env g name rest s r

/-- Every launch of a command takes one of these courses. -/
theorem launch_course (hw : w.Dependable) (hargs : readHead args = .ok (.command g name rest))
    (s : Site σ) : Course w env g name rest s ((launch w env args).run s) := by
  rcases hlog : ((configureLogging env g).run s.tree).result with e | _
  · exact .unlogged hlog (launch_run_unlogged hargs hlog)
  rw [launch_run hargs hlog]
  let t : Site σ := ⟨((configureLogging env g).run s.tree).state, s.world⟩
  rcases hvalid : Settings.fromEnvironment env (overrides g) with fault | settings
  · rw [runCommand_of_invalid hvalid]
    have htold : Ending.Told
        { exit := 1, stderr := complaint ("Invalid settings: " ++ fault.headline) } :=
      ⟨rfl, .inr ⟨rfl, _, String.append_assoc⟩⟩
    exact .invalid hlog hvalid ((Halted.pure t _).shown g) rfl (htold.shown g)
  rcases hrest : readRequest name rest with fault | request
  · rw [runCommand_of_usage hvalid hrest]
    exact .unread hrest ((Halted.pure t _).shown g)
  rw [runCommand_of_request hvalid hrest]
  exact .served hlog hvalid hrest ((carryOut_served hw hvalid request t).shown g)

/-! ## Failing fast -/

/-- The operation on the fleet that the arguments ask for. -/
def operation? (args : List String) : Option Operation :=
  match readHead args with
  | .ok (.command _ name rest) => match readRequest name rest with
    | .ok (.operate o) => some o
    | _ => none
  | _ => none

/-- A launch without a command, or with arguments that cannot be read, does nothing. -/
theorem launch_of_no_command (hargs : ¬ ∃ g name rest, readHead args = .ok (.command g name rest))
    (s : Site σ) : operation? args = none ∧ ∃ ending, Halted s ((launch w env args).run s) ending := by
  rcases hhead : readHead args with fault | _ | ⟨g, name, rest⟩
  · have hlaunch : launch w env args = pure (endUsage fault) := by simp [launch, run, hhead]
    exact ⟨by simp [operation?, hhead], _, hlaunch ▸ Halted.pure s _⟩
  · have hlaunch : launch w env args = pure { exit := 0, stdout := helpText } := by
      simp [launch, run, hhead]
    exact ⟨by simp [operation?, hhead], _, hlaunch ▸ Halted.pure s _⟩
  · exact absurd ⟨g, name, rest, hhead⟩ hargs

/-- A run that is halted has nothing to account for, if it did not succeed when an operation
was asked for. -/
theorem Halted.fails_fast {r : Ran (Site σ) Ending} {ending : Ending} (h : Halted s r ending)
    (hrefused : ∀ o, operation? args = some o → ending.exit ≠ 0)
    {Accounts : Operation → Ending → Prop} :
    ∃ ending, r.result = .ok ending ∧
      (ending.exit ≠ 0 ∨ ending.escaped.isSome →
        r.state.world = s.world ∧ ∀ e ∈ r.events, e.IsLog) ∧
      ∀ o, operation? args = some o → ending.exit = 0 → Accounts o ending :=
  ⟨ending, h.result, fun _ => ⟨h.world, h.logged⟩, fun o ho hexit => absurd hexit (hrefused o ho)⟩

/-- For all that the system does, all arguments, all variables and all files: a launch
that ends with a failure has run no process, reached no host and waited for nothing. One
that ends well after it was asked for an operation has printed how many commands for
instances the operation took, and how many of them did not end well. -/
theorem launch_fails_fast (hw : w.Dependable) (env : Environment) (args : List String)
    (s : Site σ) :
    let r := (launch w env args).run s
    ∃ ending, r.result = .ok ending ∧
      (ending.exit ≠ 0 ∨ ending.escaped.isSome →
        r.state.world = s.world ∧ ∀ e ∈ r.events, e.IsLog) ∧
      ∀ o, operation? args = some o → ending.exit = 0 →
        ∃ g name rest settings topology a v errands,
          readHead args = .ok (.command g name rest) ∧
          Settings.fromEnvironment env (overrides g) = .ok settings ∧
          Dispatched w env settings o
            ⟨((configureLogging env g).run s.tree).state, s.world⟩ topology a v errands r ∧
          ending.stdout = counted o errands := by
  intro r
  by_cases hargs : ∃ g name rest, readHead args = .ok (.command g name rest)
  case neg =>
    obtain ⟨hnone, ending, halted⟩ := launch_of_no_command hargs s
    exact halted.fails_fast fun o ho => by rw [hnone] at ho; cases ho
  obtain ⟨g, name, rest, hargs⟩ := hargs
  cases launch_course hw hargs s with
  | unlogged fails halted => exact halted.fails_fast fun _ _ => Nat.one_ne_zero
  | invalid logs invalid halted exit told =>
    exact halted.fails_fast fun _ _ => by rw [exit]; exact Nat.one_ne_zero
  | unread unread halted =>
    exact halted.fails_fast fun o ho => by simp [operation?, hargs, unread] at ho
  | @served settings request logs valid read served =>
    cases served with
    | told halted told refused clear =>
      refine halted.fails_fast fun o ho => ?_
      cases request with
      | operate o' => rw [refused o' rfl]; exact Nat.one_ne_zero
      | _ => simp [operation?, hargs, read] at ho
    | escaped halted exit escaped obstacle =>
      exact halted.fails_fast fun _ _ => by rw [exit]; exact Nat.one_ne_zero
    | @operated o topology a v errands ending asked dispatched result exit escaped printed clear =>
      refine ⟨ending, result, ?_, fun o' ho' _ => ?_⟩
      · rw [escaped]
        rintro (hne | hsome)
        · exact absurd exit hne
        · cases hsome
      · obtain rfl : o = o' := by simpa [operation?, hargs, read, asked] using ho'
        exact ⟨g, name, rest, settings, topology, a, v, errands, hargs, valid, dispatched, printed⟩

/-- The files of a fleet of two hosts. -/
def twoHosts : FileTree :=
  ⟨[(["conf"], .directory), (["conf", "tservers"], .file (Text.Utf8.encode "localhost\nb\n")),
    (["conf", "managers"], .file (Text.Utf8.encode "b\n"))]⟩

/-- The fleet is started on an unreliable system: five of six commands fail, and are
counted. -/
theorem launch_fails_fast_flaky :
    let r := (launch .flaky [] ["start"]).run ⟨twoHosts, 0⟩
    ∃ ending, r.result = .ok ending ∧ ending.exit = 0 ∧
      ending.stdout = "start: 6 dispatched, 5 failed\n" ∧
      ∃ settings topology a v errands,
        Dispatched .flaky [] settings .startAll
          ⟨((configureLogging [] {}).run twoHosts).state, 0⟩ topology a v errands r ∧
        ending.stdout = counted .startAll errands := by
  intro r
  have hhead : readHead ["start"] = .ok (.command {} (.operate .startAll) []) :=
    readHead_of_name (by decide +kernel) (by decide)
  have hasked : operation? ["start"] = some .startAll := by decide +kernel
  have hends : r.result.toOption.map (fun e => (e.exit, e.stdout)) =
      some (0, "start: 6 dispatched, 5 failed\n") := by decide +kernel
  obtain ⟨ending, hresult, -, hdispatched⟩ :=
    launch_fails_fast World.flaky_dependable [] ["start"] ⟨twoHosts, 0⟩
  have hresult : r.result = .ok ending := hresult
  rw [hresult] at hends
  obtain ⟨hexit, hstdout⟩ := Prod.mk.inj (Option.some.inj hends)
  obtain ⟨g, name, rest, settings, topology, a, v, errands, hargs, -, hdispatched, hcounted⟩ :=
    hdispatched .startAll hasked hexit
  obtain ⟨rfl, -, -⟩ := Head.command.inj (Except.ok.inj (hhead.symm.trans hargs))
  exact ⟨ending, hresult, hexit, hstdout, settings, topology, a, v, errands, hdispatched, hcounted⟩

/-! ## What is passed on -/

end ServerFleet.Console
