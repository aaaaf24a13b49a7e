import ServerFleet.Collaborators.OnSystem
import ServerFleet.Proofs.Calls

/-!
# Exchanges with the system

A collaborator that is built on the system turns a control call into exchanges with
the system: a process and how it ended, or a connection to a host and how the command
line ended that was run over it. A `Transcript` lists the exchanges of a run, each with
the answer of the world in the state it was in by then.

* `ControlCall.Conducts`: the exchanges of every control call, with the words of the
  administrative command and the way to other hosts written out;
* `Collaborators.onSystem_conducts`: a call succeeds if a command of its exchanges
  ended with the exit code zero, and fails in any other case, in a way that a sequence
  expects of the call.
-/

namespace ServerFleet

/-- A call to the system, and its answer. -/
inductive Exchange where
  | process (argv : List String) (env : Environment) (limit : Option Float) (ended : ProcessEnd)
  | connect (host : String) (options : ConnectionOptions) (met : Except Failure Unit)
  | runOver (host line : String) (limit : Option Float) (ended : RemoteEnd)
  | disconnect (host : String)

namespace Exchange

def call : Exchange → SystemCall
  | process argv env limit _ => .process argv env limit
  | connect host options _ => .connect host options
  | runOver host line limit _ => .runOver host line limit
  | disconnect host => .disconnect host

/-- Whether a command was run to its end, with the exit code zero. -/
def exitedZero : Exchange → Bool
  | process _ _ _ (.exited code _ _) => code = 0
  | runOver _ _ _ (.exited code _ _) => code = 0
  | _ => false

end Exchange

variable {σ α : Type}

/-- Whether a state of the world is at an end of a reaction. What is asked for on the
way leaves the world alone. -/
def Reaction.EndsIn : Reaction σ → σ → Prop
  | .finish _ next, s => s = next
  | .reenter _ next resume, s => ∃ failure, (resume failure next).EndsIn s
  | .register _ rest, s => rest.EndsIn s

/-- The exchanges with the system from one state of the world to another. In between,
the world is asked about the machine, and there are waits. -/
inductive Transcript (w : World σ) (s : σ) : List Exchange → σ → Prop
  | nil : Transcript w s [] s
  | machine {xs t} : Transcript w s xs t → Transcript w s xs (w.machine t).2
  | sleep {xs t u} (seconds : Float) : Transcript w s xs t →
      (w.control (.sleep seconds) t).EndsIn u → Transcript w s xs u
  | process {xs t} (argv : List String) (env : Environment) (limit : Option Float) :
      Transcript w s xs t →
      Transcript w s (xs ++ [.process argv env limit (w.process argv env limit t).1])
        (w.process argv env limit t).2
  | connect {xs t} (host : String) (options : ConnectionOptions) : Transcript w s xs t →
      Transcript w s (xs ++ [.connect host options (w.connect host options t).1])
        (w.connect host options t).2
  | runOver {xs t} (host line : String) (limit : Option Float) : Transcript w s xs t →
      Transcript w s (xs ++ [.runOver host line limit (w.runOver host line limit t).1])
        (w.runOver host line limit t).2
  | disconnect {xs t} (host : String) : Transcript w s xs t →
      Transcript w s (xs ++ [.disconnect host]) t

theorem Transcript.append {w : World σ} {s t u : σ} {xs ys : List Exchange}
    (h : Transcript w s xs t) (h' : Transcript w t ys u) : Transcript w s (xs ++ ys) u := by
  induction h' with
  | nil =>
    rw [List.append_nil]
    exact h
  | machine _ ih => exact .machine ih
  | sleep seconds _ hend ih => exact .sleep seconds ih hend
  | process argv env limit _ ih =>
    rw [← List.append_assoc]
    exact .process argv env limit ih
  | connect host options _ ih =>
    rw [← List.append_assoc]
    exact .connect host options ih
  | runOver host line limit _ ih =>
    rw [← List.append_assoc]
    exact .runOver host line limit ih
  | disconnect host _ ih =>
    rw [← List.append_assoc]
    exact .disconnect host ih

/-- The exchanges of a run on the world from `s`, which succeeds if one of them is a
command that ended with the exit code zero, and fails in any other case. -/
structure Exchanges (w : World σ) (s : σ) (r : Ran σ α) (xs : List Exchange) : Prop where
  transcript : Transcript w s xs r.state
  calls : r.events.filterMap Event.systemCall? = xs.map Exchange.call
  verdict : succeeded r.result = xs.any Exchange.exitedZero

/-! ## Processes -/

namespace LocalProcess

variable (w : World σ) (base : Environment) (argv : List String) (additions : Environment)
  (limit : Option Float) (s : σ)

theorem run_run : (run w base argv additions limit).run s =
    let answer := w.process argv (base.layer additions) limit s
    ⟨result argv limit answer.1, answer.2,
      [.log .debug ("Running locally: " ++ " ".intercalate argv),
        .system (.process argv (base.layer additions) limit)]⟩ := rfl

/-- A program is run in one exchange. -/
theorem exchanges : Exchanges w s ((run w base argv additions limit).run s)
    [.process argv (base.layer additions) limit
      (w.process argv (base.layer additions) limit s).1] where
  transcript := .process argv (base.layer additions) limit .nil
  calls := rfl
  verdict := by
    rw [run_run]
    generalize w.process argv (base.layer additions) limit s = answer
    obtain ⟨ended, t⟩ := answer
    cases ended with
    | exited code stdout stderr =>
      by_cases h : code = 0 <;> simp [result, succeeded, Exchange.exitedZero, h]
    | timedOut => rfl
    | failed e => rfl

/-- The failures to run a program are execution failures, if the system fails only to
start it. -/
theorem kind_of_error (hw : ∀ e, (w.process argv (base.layer additions) limit s).1 = .failed e →
      e.kind.isSystem) {e : Failure}
    (h : ((run w base argv additions limit).run s).result = .error e) :
    e.kind = .reported .execution := by
  rw [run_run] at h
  generalize w.process argv (base.layer additions) limit s = answer at h hw
  obtain ⟨ended, t⟩ := answer
  cases ended with
  | exited code stdout stderr =>
    by_cases hcode : code = 0
    · simp [result, hcode] at h
    · simp only [result, hcode, if_false, Except.error.injEq] at h
      rw [← h]
      rfl
  | timedOut =>
    rw [← Except.error.inj h]
    rfl
  | failed cause =>
    simp only [result, hw cause rfl, if_true, Except.error.injEq] at h
    rw [← h]
    rfl

end LocalProcess

/-! ## Conversations -/

/-- The exchanges of a command line on another host: there are none if the connection
cannot be made, and no command is run if it is not met. -/
inductive Conversation (how : Except Failure ConnectionOptions) (host line : String)
    (limit : Option Float) : List Exchange → Prop
  | keyless {e} (h : how = .error e) : Conversation how host line limit []
  | unmet {options} (h : how = .ok options) (e : Failure) :
      Conversation how host line limit [.connect host options (.error e)]
  | held {options} (h : how = .ok options) (ended : RemoteEnd) :
      Conversation how host line limit
        [.connect host options (.ok ()), .runOver host line limit ended, .disconnect host]

namespace RemoteShell

variable (w : World σ) (home : String) (options : RemoteOptions) (host line : String) (s : σ)

theorem run_run : (run w home options host line).run s =
    let r := (converse w home options host line).run s
    ⟨result host line r.result, r.state,
      .log .debug ("Running on " ++ host ++ ": " ++ line) :: r.events⟩ := by
  rw [run, Act.run_bind_of_ok (Act.run_log _ _ _), Act.run_bind_of_ok (Act.run_attempt _ _)]
  simp

/-- The result of a conversation that was held is decided by the end of its command. -/
theorem succeeded_result (ended : RemoteEnd) :
    succeeded (result host line (.ok ended)) =
      (Exchange.runOver host line options.commandTimeout ended).exitedZero := by
  cases ended with
  | exited code stdout stderr =>
    by_cases h : code = 0 <;> simp [result, succeeded, Exchange.exitedZero, h]
  | timedOut => rfl
  | failed e => rfl

/-- The connection cannot be made, or it is not met, or the command line is run over it and
it is closed. -/
theorem converse_cases :
    (∃ e, connection w home options = .error e ∧
      (converse w home options host line).run s = ⟨.error e, s, []⟩) ∨
    ∃ how, connection w home options = .ok how ∧
      ((∃ e, (w.connect host how s).1 = .error e ∧
        (converse w home options host line).run s =
          ⟨.error e, (w.connect host how s).2, [.system (.connect host how)]⟩) ∨
      (w.connect host how s).1 = .ok () ∧
        (converse w home options host line).run s =
          let answer := w.runOver host line options.commandTimeout (w.connect host how s).2
          ⟨.ok answer.1, answer.2, [.system (.connect host how),
            .system (.runOver host line options.commandTimeout), .system (.disconnect host)]⟩) := by
  unfold converse
  cases connection w home options with
  | error e => exact .inl ⟨e, rfl, rfl⟩
  | ok how =>
    refine .inr ⟨how, rfl, ?_⟩
    simp only [Act.run_bind, Act.after, Act.run_ofExcept, Act.run_record, Act.run_consult]
    cases (w.connect host how s).1 with
    | error e => exact .inl ⟨e, rfl, rfl⟩
    | ok _ => exact .inr ⟨rfl, rfl⟩

/-- A command line is run in a conversation, whose result is the end of the command if it was
run. -/
theorem conversation : ∃ xs, Exchanges w s ((run w home options host line).run s) xs ∧
    Conversation (connection w home options) host line options.commandTimeout xs ∧
    ∀ ended, ((converse w home options host line).run s).result = .ok ended ↔
      .runOver host line options.commandTimeout ended ∈ xs := by
  rw [run_run]
  rcases converse_cases w home options host line s with
    ⟨e, hhow, hrun⟩ | ⟨how, hhow, ⟨e, hmeet, hrun⟩ | ⟨hmeet, hrun⟩⟩
  · rw [hrun]
    exact ⟨[], ⟨.nil, rfl, rfl⟩, .keyless hhow, by simp⟩
  · have hmet : Transcript w s [.connect host how (w.connect host how s).1] _ :=
      .connect host how .nil
    rw [hrun]
    rw [hmeet] at hmet
    exact ⟨_, ⟨hmet, rfl, rfl⟩, .unmet hhow e, by simp⟩
  · have hmet : Transcript w s [.connect host how (w.connect host how s).1] _ :=
      .connect host how .nil
    rw [hrun]
    rw [hmeet] at hmet
    refine ⟨_, ⟨(hmet.runOver host line options.commandTimeout).disconnect host, rfl, ?_⟩,
      .held hhow _, fun ended => by simp [eq_comm]⟩
    rw [succeeded_result options host line]
    simp [Exchange.exitedZero]

/-- A command line is run in a conversation. -/
theorem exchanges : ∃ xs, Exchanges w s ((run w home options host line).run s) xs ∧
    Conversation (connection w home options) host line options.commandTimeout xs := by
  obtain ⟨xs, hxs, hconversation, -⟩ := conversation w home options host line s
  exact ⟨xs, hxs, hconversation⟩

end RemoteShell

/-! ## The administrative command -/

namespace Administration

variable (w : World σ) (a : Administration) (argv : List String) (wrap : Failure → Failure) (s : σ)

theorem call_run : (call w a argv wrap).run s =
    let r := (LocalProcess.run w a.environment argv [] a.limit).run s
    ⟨match r.result with
      | .ok _ => .ok ()
      | .error e => .error (if e.kind = .reported .execution then wrap e else e),
      r.state, r.events⟩ := by
  rw [call, Act.run_bind_of_ok (Act.run_attempt _ _)]
  generalize (LocalProcess.run w a.environment argv [] a.limit).run s = r
  obtain ⟨_ | _, t, es⟩ := r <;> simp

/-- The command is run in one exchange. -/
theorem exchanges : Exchanges w s ((call w a argv wrap).run s)
    [.process argv a.environment a.limit (w.process argv a.environment a.limit s).1] := by
  obtain ⟨htranscript, hcalls, hverdict⟩ :=
    LocalProcess.exchanges w a.environment argv [] a.limit s
  rw [call_run]
  refine ⟨htranscript, hcalls, Eq.trans ?_ hverdict⟩
  generalize (LocalProcess.run w a.environment argv [] a.limit).run s = r
  obtain ⟨_ | _, t, es⟩ := r <;> rfl

/-- A failure of the command is wrapped, if the system fails only to start it. -/
theorem call_error (hw : ∀ e, (w.process argv a.environment a.limit s).1 = .failed e →
      e.kind.isSystem) {e : Failure} (h : ((call w a argv wrap).run s).result = .error e) :
    ∃ cause, e = wrap cause := by
  rw [call_run] at h
  cases hr : ((LocalProcess.run w a.environment argv [] a.limit).run s).result with
  | ok _ => simp [hr] at h
  | error cause =>
    have hkind := LocalProcess.kind_of_error w a.environment argv [] a.limit s hw hr
    simp only [hr, hkind, if_true, Except.error.injEq] at h
    exact ⟨cause, h.symm⟩

end Administration

/-! ## Control calls -/

/-- How the settings have another host reached from an environment: with their key, if they name
one, whose path may begin with a home directory. It cannot be reached if that is not known. -/
inductive Settings.Connects (w : World σ) (env : Environment) (settings : Settings) :
    Except Failure ConnectionOptions → Prop
  | unkeyed (unnamed : settings.sshKey.getD "" = "") : Connects w env settings
      (.ok ⟨settings.sshUser, settings.sshPort, settings.connectTimeout, none⟩)
  | keyed {key : String} {path : Path} (named : settings.sshKey = some key) (nonempty : key ≠ "")
      (expands : (Path.parse key).expandHome ((env.get? "HOME").getD "") w.homeOf = .ok path) :
      Connects w env settings
        (.ok ⟨settings.sshUser, settings.sshPort, settings.connectTimeout, some path⟩)
  | homeless {key : String} {fault : Path.HomeFault} (named : settings.sshKey = some key)
      (nonempty : key ≠ "")
      (fails : (Path.parse key).expandHome ((env.get? "HOME").getD "") w.homeOf = .error fault)
      (e : Failure) : Connects w env settings (.error e)

/-- The shell connects as the settings have it. -/
theorem RemoteShell.connection_connects (w : World σ) (env : Environment) (settings : Settings) :
    settings.Connects w env
      (connection w ((env.get? "HOME").getD "") (RemoteOptions.ofSettings settings)) := by
  unfold connection keyPath
  split
  next hkey =>
    have hkey : settings.sshKey = none := hkey
    exact .unkeyed (by rw [hkey]; rfl)
  next hkey =>
    have hkey : settings.sshKey = some "" := hkey
    exact .unkeyed (by rw [hkey]; rfl)
  next key hnonempty hkey =>
    have hkey : settings.sshKey = some key := hkey
    have hnonempty : key ≠ "" := hnonempty
    split
    next path hpath => exact .keyed hkey hnonempty hpath
    next hfails => exact .homeless hkey hnonempty hfails _
    next hfails => exact .homeless hkey hnonempty hfails _

/-- The flags for the registrations of some roles: each once, in a fixed order. -/
def ControlCall.zapFlags (roles : List Role) : List String :=
  (if .coordinator ∈ roles then ["--managers"] else []) ++
    (if .worker ∈ roles then ["--tservers"] else []) ++
      (if .tracer ∈ roles then ["--tracers"] else [])

/-- The flags of a purge are those of its roles. -/
theorem Administration.purgeFlags_eq (roles : List Role) :
    purgeFlags roles = ControlCall.zapFlags roles := by
  by_cases hc : .coordinator ∈ roles <;> by_cases hw : .worker ∈ roles <;>
    by_cases ht : .tracer ∈ roles <;>
    simp [purgeFlags, purgeFlag?, ControlCall.zapFlags, hc, hw, ht]

namespace ControlCall

/-- Only a failure may be one that is not expected. -/
theorem permits_of_error {c : ControlCall} {result : Except Failure Unit}
    (h : ∀ e, result = .error e → c.Permits (.error e)) : c.Permits result := by
  cases result with
  | ok _ => cases c <;> trivial
  | error e => exact h e rfl

/-- Whether there is something to purge, if the call is for a purge. -/
def Purgeable : ControlCall → Prop
  | purge roles => Administration.purgeFlags roles ≠ []
  | _ => True

/-- The exchanges by which a call is carried out in an environment. -/
def Conducts (w : World σ) (env : Environment) (settings : Settings) (a : Administration) :
    ControlCall → List Exchange → Prop
  | runLocal argv additions limit, xs =>
    ∃ ended, xs = [.process argv (env.layer additions) limit ended]
  | runRemote host line, xs => ∃ how, settings.Connects w env how ∧
    Conversation how host line settings.commandTimeout xs
  | admin .stopAll, xs => ∃ ended,
    xs = [.process (a.base ++ ["stop-all"]) a.environment a.limit ended]
  | admin (.setGoal goal), xs => ∃ ended,
    xs = [.process (a.base ++ ["set-goal-state", goal]) a.environment a.limit ended]
  | admin (.stopWorker host), xs => ∃ ended,
    xs = [.process (a.base ++ ["stop-server", host]) a.environment a.limit ended]
  | purge roles, xs => ∃ ended,
    xs = [.process (a.base ++ "zap" :: zapFlags roles) a.environment a.limit ended]
  | sleep _, xs => xs = []

/-- The result of a call fits the exchanges by which it was carried out. -/
structure Went (w : World σ) (env : Environment) (settings : Settings) (a : Administration)
    (c : ControlCall) (result : Except Failure Unit) (xs : List Exchange) : Prop where
  conducts : c.Conducts w env settings a xs
  verdict : (∀ seconds, c ≠ .sleep seconds) → succeeded result = xs.any Exchange.exitedZero
  permits : c.Permits result

end ControlCall

/-- An action that leaves the world, the pool and the identities alone, and asks nothing
of the system. -/
def Still (a : Act (Session σ) α) : Prop :=
  ∀ world isOpen v, Act.Keeps
    (fun s => s.world = world ∧ s.poolOpen = isOpen ∧ s.views = v)
    (fun e => e.systemCall? = none) a

theorem Cluster.refuse_still (t : Transition) :
    Still (Cluster.refuse t : Act (Session σ) Unit) :=
  fun _ _ _ => refuse_keeps (fun _ _ h => h) t

namespace Session

variable {reenter : Transition → Act (Session σ) Unit} {P : Except Failure Unit → Prop}

/-- A reaction that asks only for what is still comes to one of its ends. -/
theorem react_still {r : Reaction σ} (h : r.Meets (fun t => Still (reenter t)) P) (s : Session σ) :
    let x := (react reenter r).run s
    r.EndsIn x.state.world ∧ x.state.poolOpen = s.poolOpen ∧ x.state.views = s.views ∧
      x.events.filterMap Event.systemCall? = [] := by
  induction r generalizing s with
  | finish outcome next => exact ⟨rfl, rfl, rfl, rfl⟩
  | register callback rest ih => exact ih h _
  | reenter t next resume ih =>
    let s₁ : Session σ := { s with world := next }
    let asked := (reenter t).run s₁
    obtain ⟨-, ⟨hworld, hopen, hviews⟩, hcalls⟩ :=
      h.1 next s.poolOpen s₁.views s₁ ⟨rfl, rfl, rfl⟩
    obtain ⟨failure, hrun⟩ : ∃ failure, (react reenter (.reenter t next resume)).run s =
        let x := (react reenter (resume failure asked.state.world)).run asked.state
        ⟨x.result, x.state, asked.events ++ .reentered t failure :: x.events⟩ := by
      rw [react, Act.run_bind_of_ok (Act.run_modify _ s), Act.run_bind, Act.run_map,
        Act.run_attempt]
      exact ⟨_, rfl⟩
    obtain ⟨hends, hopen', hviews', hcalls'⟩ := ih failure asked.state.world (h.2 _ _) asked.state
    rw [hrun]
    refine ⟨⟨failure, hworld ▸ hends⟩, hopen'.trans hopen, hviews'.trans hviews, ?_⟩
    rw [List.filterMap_append, List.filterMap_eq_nil_iff.mpr hcalls]
    exact hcalls'

end Session

/-! ## Collaborators on the system -/

/-- What is relied on of the world: that processes fail only in ways in which the
system fails to start them, and that waits end, in which `reenter` does nothing of note. -/
structure World.Behaves (w : World σ) (reenter : Transition → Act (Session σ) Unit) : Prop where
  process : ∀ argv env limit s e, (w.process argv env limit s).1 = .failed e → e.kind.isSystem
  sleep : ∀ seconds s, (w.control (.sleep seconds) s).Meets (fun t => Still (reenter t))
    (· = .ok ())

theorem World.Behaves.imp {w : World σ} {reenter other : Transition → Act (Session σ) Unit}
    (h : w.Behaves reenter) (hr : ∀ t, Still (reenter t) → Still (other t)) : w.Behaves other :=
  ⟨h.process, fun seconds s => (h.sleep seconds s).imp hr⟩

/-- What is relied on of the world, whatever `reenter` does. -/
def World.Dependable (w : World σ) : Prop :=
  ∀ reenter : Transition → Act (Session σ) Unit, w.Behaves reenter

theorem Exchanges.map {β : Type} {w : World σ} {s : σ} {r : Ran σ α} {xs : List Exchange}
    (h : Exchanges w s r xs) (f : α → β) :
    Exchanges w s ⟨f <$> r.result, r.state, r.events⟩ xs := by
  refine ⟨h.transcript, h.calls, Eq.trans ?_ h.verdict⟩
  cases r.result <;> rfl

/-- How a call is carried out from the session `s`. -/
structure Conducted (w : World σ) (env : Environment) (settings : Settings) (a : Administration)
    (c : ControlCall) (s : Session σ) (r : Ran (Session σ) Unit) (xs : List Exchange) : Prop where
  transcript : Transcript w s.world xs r.state.world
  calls : r.events.filterMap Event.systemCall? = xs.map Exchange.call
  pool : r.state.poolOpen = s.poolOpen
  views : r.state.views = s.views
  went : c.Purgeable → c.Went w env settings a r.result xs

/-- The words of a purge, if there is something to purge. -/
theorem Administration.purgeWords_eq (a : Administration) {roles : List Role}
    (h : purgeFlags roles ≠ []) :
    purgeWords a roles = .ok (a.base ++ "zap" :: ControlCall.zapFlags roles) := by
  rw [← purgeFlags_eq]
  unfold purgeWords
  split
  · exact absurd ‹_› h
  · rfl

section

variable {w : World σ} {env : Environment} {settings : Settings} {a : Administration}
  {reenter : Transition → Act (Session σ) Unit}

theorem Exchanges.conducted {c : ControlCall} {s : Session σ} {r : Ran σ Unit} {xs : List Exchange}
    (h : Exchanges w s.world r xs) (hc : c.Conducts w env settings a xs) (hp : c.Permits r.result) :
    Conducted w env settings a c s ⟨r.result, { s with world := r.state }, r.events⟩ xs :=
  ⟨h.transcript, h.calls, rfl, rfl, fun _ => ⟨hc, fun _ => h.verdict, hp⟩⟩

/-- Every call is carried out in exchanges with the system, which decide its result. It
fails only in ways that a sequence expects of the call. -/
theorem Collaborators.onSystem_conducts (hw : w.Behaves reenter) (c : ControlCall)
    (s : Session σ) : ∃ xs, Conducted w env settings a c s
      (((onSystem w env settings a reenter).make c).run s) xs := by
  cases c with
  | runLocal argv additions limit =>
    have hrun : ((onSystem w env settings a reenter).make (.runLocal argv additions limit)).run s =
        ⟨_, _, _⟩ := Act.after_value _ _
    rw [hrun]
    exact ⟨_, ((LocalProcess.exchanges w env argv additions limit s.world).map _).conducted ⟨_, rfl⟩
      (ControlCall.permits_of_error fun _ _ => trivial)⟩
  | runRemote host line =>
    obtain ⟨xs, h, hc⟩ := RemoteShell.exchanges w ((env.get? "HOME").getD "")
      (RemoteOptions.ofSettings settings) host line s.world
    have hrun : ((onSystem w env settings a reenter).make (.runRemote host line)).run s =
        ⟨_, _, _⟩ := Act.after_value _ _
    rw [hrun]
    exact ⟨xs, (h.map _).conducted ⟨_, RemoteShell.connection_connects w env settings, hc⟩
      (ControlCall.permits_of_error fun _ _ => trivial)⟩
  | admin r =>
    have h := Administration.exchanges w a (a.base ++ r.words)
      (fun e => .administrative r.words (a.base ++ r.words) e) s.world
    have hconducts (ended : ProcessEnd) : (ControlCall.admin r).Conducts w env settings a
        [.process (a.base ++ r.words) a.environment a.limit ended] := by
      cases r <;> exact ⟨ended, rfl⟩
    refine ⟨_, h.conducted (hconducts _) (ControlCall.permits_of_error fun e he => ?_)⟩
    obtain ⟨cause, rfl⟩ := Administration.call_error w a _ _ s.world (hw.process _ _ _ _) he
    rfl
  | purge roles =>
    by_cases hflags : Administration.purgeFlags roles = []
    · have hrun : (((onSystem w env settings a reenter).make (.purge roles)).run s) =
          ⟨.error (.nothingToPurge roles), s, []⟩ := by
        show (Session.inWorld (a.purge w roles)).run s = _
        simp [Session.inWorld, Administration.purge, Administration.purgeWords, hflags,
          Act.run_bind, Act.after]
      rw [hrun]
      exact ⟨[], .nil, rfl, rfl, rfl, fun h => absurd hflags h⟩
    · let argv := a.base ++ "zap" :: ControlCall.zapFlags roles
      have hrun : (a.purge w roles).run s.world =
          (Administration.call w a argv fun e => .cleanup roles e).run s.world := by
        rw [Administration.purge, a.purgeWords_eq hflags]
        rfl
      have h := Administration.exchanges w a argv (fun e => .cleanup roles e) s.world
      rw [← hrun] at h
      refine ⟨_, h.conducted ⟨_, rfl⟩ (ControlCall.permits_of_error fun e he => ?_)⟩
      rw [hrun] at he
      obtain ⟨cause, rfl⟩ := Administration.call_error w a argv _ s.world (hw.process _ _ _ _) he
      rfl
  | sleep seconds =>
    obtain ⟨hends, hopen, hviews, hcalls⟩ := Session.react_still (hw.sleep seconds s.world) s
    have hres :
        ((Session.react reenter (w.control (.sleep seconds) s.world)).run s).result = .ok () :=
      Session.react_result (hw.sleep seconds s.world) s
    have hrun : ((onSystem w env settings a reenter).make (.sleep seconds)).run s = _ :=
      Session.call_run w (.sleep seconds) s
    rw [hrun]
    refine ⟨[], .sleep seconds .nil hends, hcalls, hopen, hviews, fun _ =>
      ⟨rfl, fun h => absurd rfl (h seconds), ?_⟩⟩
    rw [hres]
    trivial

end

end ServerFleet
