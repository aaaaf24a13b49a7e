import Mathlib.Data.List.Forall2
import ServerFleet.Proofs.Verdicts

/-!
# Calls to other hosts

A command line is run on another host by one call of the remote shell. Whatever becomes of the
connection and of the command:

* a call opens at most one connection, runs at most one command over it, and closes what it
  opened before it ends (`HostCall.Bracketed`);
* a call gives what the command wrote if that ended with the exit code zero, and in any other
  case is an execution failure that says which host and which command line it was for
  (`HostCall.Tells`).

`RemoteShell.calls_bracketed` shows this for any calls one after the other, and for any commands
for instances that are dispatched to remote shells.
-/

namespace ServerFleet

/-! ## What a call does -/

namespace Exchange

/-- Whether the exchange is one with a host, for a command line and its time limit. -/
def IsFor (host line : String) (limit : Option Float) : Exchange → Prop
  | process .. => False
  | connect h _ _ => h = host
  | runOver h l t _ => h = host ∧ l = line ∧ t = limit
  | disconnect h => h = host

/-- Whether a connection is asked for. -/
def asks : Exchange → Bool
  | connect .. => true
  | _ => false

/-- Whether a connection is opened. -/
def opens : Exchange → Bool
  | connect _ _ (.ok _) => true
  | _ => false

/-- Whether a command is run over a connection. -/
def runs : Exchange → Bool
  | runOver .. => true
  | _ => false

/-- Whether a connection is closed. -/
def closes : Exchange → Bool
  | disconnect _ => true
  | _ => false

end Exchange

/-- A call to a host, with the exchanges that it made and the result that it gave. -/
structure HostCall where
  host : String
  line : String
  exchanges : List Exchange
  result : Except Failure String

namespace HostCall

/-- The exchanges of a call, for a command with a time limit, are bracketed by a connection. -/
structure Bracketed (limit : Option Float) (c : HostCall) : Prop where
  own : ∀ x ∈ c.exchanges, x.IsFor c.host c.line limit
  asksOnce : c.exchanges.countP Exchange.asks ≤ 1
  runsOnce : c.exchanges.countP Exchange.runs ≤ 1
  /-- What was opened is closed once. -/
  closed : c.exchanges.countP Exchange.closes = c.exchanges.countP Exchange.opens
  closesAfter : ∀ before x after, c.exchanges = before ++ x :: after → x.closes = true →
    before.any Exchange.opens = true
  runsBetween : ∀ before x after, c.exchanges = before ++ x :: after → x.runs = true →
    before.any Exchange.opens = true ∧ after.any Exchange.closes = true

/-- The command of a call was run and exited. -/
def Exited (limit : Option Float) (c : HostCall) (code : Int) (stdout stderr : String) : Prop :=
  (∃ x ∈ c.exchanges, x.opens = true) ∧
    .runOver c.host c.line limit (.exited code stdout stderr) ∈ c.exchanges

/-- The result of a call tells what became of it. -/
structure Tells (limit : Option Float) (c : HostCall) : Prop where
  stdout : ∀ out, c.result = .ok out ↔ ∃ stderr, c.Exited limit 0 out stderr
  failure : ∀ e, c.result = .error e → e.kind = .reported .execution ∧
    e.context.get? "host" = some (.text c.host) ∧ e.context.get? "command" = some (.text c.line) ∧
    ∀ j, e.context.get? "returncode" = some j ↔
      ∃ code stdout stderr, c.Exited limit code stdout stderr ∧ code ≠ 0 ∧ j = .int code

end HostCall

/-- Where a list of three can be taken apart. -/
theorem append_cons_eq_three {α : Type} {a b c x : α} {before after : List α}
    (h : [a, b, c] = before ++ x :: after) : before = [] ∧ x = a ∧ after = [b, c] ∨
      before = [a] ∧ x = b ∧ after = [c] ∨ before = [a, b] ∧ x = c ∧ after = [] := by
  rcases before with _ | ⟨a', _ | ⟨b', _ | ⟨c', before⟩⟩⟩ <;> simp at h
  · exact .inl ⟨rfl, h.1.symm, h.2.symm⟩
  · exact .inr (.inl ⟨by rw [h.1], h.2.1.symm, h.2.2.symm⟩)
  · exact .inr (.inr ⟨by rw [h.1, h.2.1], h.2.2.1.symm, h.2.2.2⟩)

/-- The exchanges of a conversation are bracketed by its connection. -/
theorem Conversation.bracketed {how : Except Failure ConnectionOptions} {host line : String}
    {limit : Option Float} {xs : List Exchange} (h : Conversation how host line limit xs)
    (result : Except Failure String) : HostCall.Bracketed limit ⟨host, line, xs, result⟩ := by
  cases h with
  | keyless =>
    exact ⟨nofun, Nat.zero_le 1, Nat.zero_le 1, rfl,
      fun before x after hsplit => absurd hsplit.symm (by simp),
      fun before x after hsplit => absurd hsplit.symm (by simp)⟩
  | @unmet options _ e =>
    -- Nothing is opened, so nothing is run or closed.
    have hidle : ∀ x ∈ [Exchange.connect host options (.error e)],
        x.closes = false ∧ x.runs = false := by
      simp [Exchange.closes, Exchange.runs]
    have hmem {before after : List Exchange} {x : Exchange}
        (hsplit : [Exchange.connect host options (.error e)] = before ++ x :: after) :
        x.closes = false ∧ x.runs = false :=
      hidle x (hsplit ▸ List.mem_append_right before List.mem_cons_self)
    refine ⟨by simp [Exchange.IsFor], Nat.le_refl 1, Nat.zero_le 1, rfl,
      fun before x after hsplit hx => ?_, fun before x after hsplit hx => ?_⟩
    · rw [(hmem hsplit).1] at hx
      cases hx
    · rw [(hmem hsplit).2] at hx
      cases hx
  | @held options _ ended =>
    refine ⟨by simp [Exchange.IsFor], Nat.le_refl 1, Nat.le_refl 1, rfl,
      fun before x after hsplit hx => ?_, fun before x after hsplit hx => ?_⟩
    · rcases append_cons_eq_three hsplit with ⟨-, rfl, -⟩ | ⟨-, rfl, -⟩ | ⟨rfl, -, -⟩
      · cases hx
      · cases hx
      · rfl
    · rcases append_cons_eq_three hsplit with ⟨-, rfl, -⟩ | ⟨rfl, -, rfl⟩ | ⟨-, rfl, -⟩
      · cases hx
      · exact ⟨rfl, rfl⟩
      · cases hx

namespace RemoteShell

variable (host line : String)

theorem result_eq_ok_iff (ended : Except Failure RemoteEnd) (out : String) :
    result host line ended = .ok out ↔ ∃ stderr, ended = .ok (.exited 0 out stderr) := by
  rcases ended with e | ⟨code, stdout, stderr⟩ | _ | e
  · simp [result]
  · by_cases h : code = 0 <;> simp [result, h]
  · simp [result]
  · simp [result]

theorem result_error {ended : Except Failure RemoteEnd} {e : Failure}
    (h : result host line ended = .error e) : e.kind = .reported .execution ∧
      e.context.get? "host" = some (.text host) ∧ e.context.get? "command" = some (.text line) ∧
      ∀ j, e.context.get? "returncode" = some j ↔
        ∃ code stdout stderr,
          ended = .ok (.exited code stdout stderr) ∧ code ≠ 0 ∧ j = .int code := by
  have hplain : Entries.get? ([("host", .text host), ("command", .text line)] : Entries Detail)
      "returncode" = none := rfl
  rcases ended with e' | ⟨code, stdout, stderr⟩ | _ | e'
  · obtain rfl := Except.error.inj h
    exact ⟨rfl, rfl, rfl, fun j => by simp [Failure.context, hplain]⟩
  · by_cases hcode : code = 0
    · simp [result, hcode] at h
    · simp only [result, hcode, if_false, Except.error.injEq] at h
      subst h
      refine ⟨rfl, rfl, rfl, fun j => ?_⟩
      have hcoded : Entries.get? (Failure.remoteFailed host line code stderr).context
          "returncode" = some (.int code) := rfl
      simp [hcoded, hcode, eq_comm]
  · obtain rfl := Except.error.inj h
    exact ⟨rfl, rfl, rfl, fun j => by simp [Failure.context, hplain]⟩
  · obtain rfl := Except.error.inj h
    exact ⟨rfl, rfl, rfl, fun j => by simp [Failure.context, hplain]⟩

/-- Every call is bracketed and tells of what it did. -/
theorem call_run {σ : Type} (w : World σ) (home : String) (options : RemoteOptions)
    (host line : String) (s : σ) :
    let r := (run w home options host line).run s
    ∃ xs, Exchanges w s r xs ∧
      HostCall.Bracketed options.commandTimeout ⟨host, line, xs, r.result⟩ ∧
      HostCall.Tells options.commandTimeout ⟨host, line, xs, r.result⟩ := by
  intro r
  obtain ⟨xs, hxs, hconversation, hends⟩ := conversation w home options host line s
  have hbracketed := hconversation.bracketed r.result
  have hresult : r.result = result host line ((converse w home options host line).run s).result :=
    rfl
  have hexited (code : Int) (stdout stderr : String) :
      ((converse w home options host line).run s).result = .ok (.exited code stdout stderr) ↔
        HostCall.Exited options.commandTimeout ⟨host, line, xs, r.result⟩ code stdout stderr := by
    rw [hends, HostCall.Exited]
    refine ⟨fun hmem => ⟨?_, hmem⟩, And.right⟩
    obtain ⟨before, after, hsplit⟩ := List.append_of_mem hmem
    obtain ⟨x, hx, hopens⟩ := List.any_eq_true.mp (hbracketed.runsBetween _ _ _ hsplit rfl).1
    exact ⟨x, hsplit ▸ List.mem_append_left _ hx, hopens⟩
  refine ⟨xs, hxs, hbracketed, fun out => ?_, fun e he => ?_⟩
  · rw [hresult, result_eq_ok_iff]
    exact exists_congr fun stderr => hexited 0 out stderr
  · obtain ⟨hkind, hhost, hline, hcode⟩ := result_error host line (hresult.symm.trans he)
    refine ⟨hkind, hhost, hline, fun j => (hcode j).trans ?_⟩
    simp only [hexited]

end RemoteShell

/-! ## Calls in a row -/

variable {σ : Type}

/-- From the state `s` of the world to `t`, with the events `es`, there were these exchanges. -/
structure Traced (w : World σ) (xs : List Exchange) (s : σ) (es : List Event) (t : σ) : Prop where
  transcript : Transcript w s xs t
  calls : es.filterMap Event.systemCall? = xs.map Exchange.call

theorem Traced.append {w : World σ} {s t u : σ} {xs ys : List Exchange} {es es' : List Event}
    (h : Traced w xs s es t) (h' : Traced w ys t es' u) : Traced w (xs ++ ys) s (es ++ es') u :=
  ⟨h.transcript.append h'.transcript, by rw [List.filterMap_append, List.map_append, h.calls,
    h'.calls]⟩

theorem Exchanges.traced {α : Type} {w : World σ} {s : σ} {r : Ran σ α} {xs : List Exchange}
    (h : Exchanges w s r xs) : Traced w xs s r.events r.state := ⟨h.transcript, h.calls⟩

/-- Actions that are traced one by one are traced in a row: of a record of each of them, `given`
says what came of it and `exchanges` what was exchanged. -/
theorem Traced.each {τ α β γ : Type} {w : World σ} (world : τ → σ) {f : α → Act τ β}
    {given : γ → β} {exchanges : γ → List Exchange} {P : α → γ → Prop}
    (h : ∀ x s, ∃ c, ((f x).run s).result = .ok (given c) ∧
      Traced w (exchanges c) (world s) ((f x).run s).events (world ((f x).run s).state) ∧ P x c)
    (xs : List α) (s : τ) :
    let r := (Act.each f xs).run s
    ∃ cs : List γ, r.result = .ok (cs.map given) ∧
      Traced w (cs.flatMap exchanges) (world s) r.events (world r.state) ∧
        List.Forall₂ P xs cs := by
  induction xs generalizing s with
  | nil => exact ⟨[], rfl, ⟨.nil, rfl⟩, .nil⟩
  | cons x xs ih =>
    obtain ⟨c, hgiven, htraced, hc⟩ := h x s
    rcases hx : (f x).run s with ⟨result, t, es⟩
    rw [hx] at hgiven htraced
    obtain rfl : result = .ok (given c) := hgiven
    obtain ⟨cs, hresults, hrest, hcs⟩ := ih t
    rw [Act.each, Act.run_bind_of_ok hx, Act.run_map, hresults]
    exact ⟨c :: cs, rfl, htraced.append hrest, .cons hc hcs⟩

/-! ## Dispatches -/

/-- The outcome of a command by the result of its control call. -/
def Outcome.ofResult {α : Type} (target : Instance) (command : Command) (isLocal : Bool) :
    Except Failure α → Outcome
  | .ok _ => ⟨target, command, isLocal, none⟩
  | .error e => ⟨target, command, isLocal, some (.dispatch target command isLocal e)⟩

theorem Outcome.ofResult_map {α β : Type} (target : Instance) (command : Command) (isLocal : Bool)
    (f : α → β) (result : Except Failure α) :
    ofResult target command isLocal (f <$> result) = ofResult target command isLocal result := by
  cases result <;> rfl

/-- A command for an instance that was dispatched: its outcome, and the exchanges by which it
was carried out. -/
structure Delivery where
  outcome : Outcome
  exchanges : List Exchange

/-- How a command for an instance was carried out: on this machine, without a call to a host; not
at all, if its words cannot be read; or by a call to its host, whose failure is the cause of that
of the dispatch. -/
inductive Delivery.Fits (settings : Settings) (target : Instance) (command : Command)
    (d : Delivery) : Prop
  | here (result : Except Failure Unit) (outcome : d.outcome = .ofResult target command true result)
      (apart : ∀ x ∈ d.exchanges, ∃ argv env limit ended, x = .process argv env limit ended)
  | unread {e : Failure} (unread : Dispatch.commandLine settings target command = .error e)
      (outcome : d.outcome = .ofResult target command false (.error e : Except Failure String))
      (none : d.exchanges = [])
  | there (c : HostCall) (host : c.host = target.host)
      (line : Dispatch.commandLine settings target command = .ok c.line)
      (outcome : d.outcome = .ofResult target command false c.result)
      (exchanges : d.exchanges = c.exchanges)
      (bracketed : c.Bracketed settings.commandTimeout) (tells : c.Tells settings.commandTimeout)

namespace Dispatch

variable (settings : Settings) (w : World σ) (c : Collaborators σ)

/-- A command is carried out by its control call, whose failure goes into the outcome. -/
theorem carryOut_run {target : Instance} (command : Command) {isLocal : Bool} {s t : Session σ}
    {es : List Event}
    (hask : (Session.asking (Identity.isLocal w (some target.host))).run s = ⟨.ok isLocal, t, es⟩) :
    let r := (control settings c isLocal target command).run t
    ∃ level text, (carryOut settings w c target command).run s =
      ⟨.ok (.ofResult target command isLocal r.result), r.state,
        es ++ (r.events ++ [.log level text])⟩ := by
  unfold carryOut
  rw [Act.run_bind_of_ok hask]
  rcases hr : (control settings c isLocal target command).run t with ⟨e | u, t', es'⟩ <;>
  · simp only [Act.run_bind, Act.after, Act.run_attempt, hr]
    exact ⟨_, _, rfl⟩

variable (env : Environment) (a : Administration) (reenter : Transition → Act (Session σ) Unit)

/-- The control call of a command on this machine is no call to a host. -/
theorem control_local (target : Instance) (command : Command) (s : Session σ) :
    let r := (control settings (.onSystem w env settings a reenter) true target command).run s
    ∃ d : Delivery, .ofResult target command true r.result = d.outcome ∧
      Traced w d.exchanges s.world r.events r.state.world ∧ d.Fits settings target command := by
  unfold control
  rcases hwords : serviceWords settings target command with e | words
  · exact ⟨⟨_, []⟩, rfl, ⟨.nil, rfl⟩, .here (.error e) rfl nofun⟩
  have hxs := LocalProcess.exchanges w env words (exported settings target)
    settings.commandTimeout s.world
  have hcall : ((Collaborators.onSystem w env settings a reenter).runLocal words
      (exported settings target) settings.commandTimeout).run s = ⟨_, _, _⟩ := Act.after_value _ _
  dsimp only
  rw [if_pos rfl, Act.run_bind_of_ok (Act.run_ofExcept _ s), hcall]
  exact ⟨⟨_, _⟩, rfl, hxs.traced, .here _ rfl (by simp)⟩

/-- The control call of a command on another host is a call to it, if the words of the command
can be read. -/
theorem control_remote (target : Instance) (command : Command) (s : Session σ) :
    let r := (control settings (.onSystem w env settings a reenter) false target command).run s
    ∃ d : Delivery, .ofResult target command false r.result = d.outcome ∧
      Traced w d.exchanges s.world r.events r.state.world ∧ d.Fits settings target command := by
  unfold control
  rcases hline : commandLine settings target command with e | line
  · exact ⟨⟨_, []⟩, rfl, ⟨.nil, rfl⟩, .unread hline rfl rfl⟩
  obtain ⟨xs, hxs, hbracketed, htells⟩ := RemoteShell.call_run w ((env.get? "HOME").getD "")
    (RemoteOptions.ofSettings settings) target.host line s.world
  have hcall : ((Collaborators.onSystem w env settings a reenter).runRemote target.host line).run s
      = ⟨_, _, _⟩ := Act.after_value _ _
  dsimp only
  rw [if_neg Bool.false_ne_true, Act.run_bind_of_ok (Act.run_ofExcept _ s), hcall]
  exact ⟨⟨.ofResult target command false _, xs⟩, Outcome.ofResult_map .., hxs.traced,
    .there _ rfl hline rfl rfl hbracketed htells⟩

/-- The control call of a command is a call to a host only for a command on another machine. -/
theorem control_delivers (isLocal : Bool) (target : Instance) (command : Command)
    (s : Session σ) :
    let r := (control settings (.onSystem w env settings a reenter) isLocal target command).run s
    ∃ d : Delivery, .ofResult target command isLocal r.result = d.outcome ∧
      Traced w d.exchanges s.world r.events r.state.world ∧ d.Fits settings target command := by
  cases isLocal with
  | true => exact control_local settings w env a reenter target command s
  | false => exact control_remote settings w env a reenter target command s

/-- A dispatched command makes a call to the host of its instance, unless that is this machine
or the words of the command cannot be read. -/
theorem carryOut_delivers (target : Instance) (command : Command) (s : Session σ) :
    let r := (carryOut settings w (.onSystem w env settings a reenter) target command).run s
    ∃ d : Delivery, r.result = .ok d.outcome ∧
      Traced w d.exchanges s.world r.events r.state.world ∧ d.Fits settings target command := by
  obtain ⟨world, identity, es, hask, -⟩ := Session.asking_run w target.host s
  have hasked : Traced w [] s.world es world := by
    have hstill := Session.asking_still w (some target.host) s
    rw [hask] at hstill
    exact ⟨hstill.1, hstill.2⟩
  generalize hs₁ : ({ s with world := world, identity := identity } : Session σ) = s₁ at hask
  obtain rfl : s₁.world = world := by rw [← hs₁]
  obtain ⟨level, text, hrun⟩ := carryOut_run settings w (.onSystem w env settings a reenter) command
    hask
  obtain ⟨d, houtcome, hd, hfits⟩ := control_delivers settings w env a reenter
    (identity.knows target.host) target command s₁
  rw [hrun, houtcome]
  refine ⟨d, rfl, ?_, hfits⟩
  -- The name of the host is looked for before the control call, and its outcome is logged after it.
  have hlog (t : Session σ) : Traced w [] t.world [.log level text] t.world := ⟨.nil, rfl⟩
  have hall := hasked.append (hd.append (hlog _))
  rw [List.nil_append, List.append_nil] at hall
  dsimp only
  exact hall

end Dispatch

/-- Calls to other hosts one after the other, whatever becomes of each, are each bracketed by a
connection of their own, give what the command wrote if it exited with zero, and are execution
failures for that host and command line otherwise. So are those calls that are made when commands
for instances are dispatched one after the other. -/
theorem RemoteShell.calls_bracketed (w : World σ) :
    (∀ (home : String) (options : RemoteOptions) (asked : List (String × String)) (s : σ),
      let r := (Act.each (fun a => (RemoteShell.run w home options a.1 a.2).attempt) asked).run s
      ∃ calls : List HostCall, r.result = .ok (calls.map (·.result)) ∧
        Traced w (calls.flatMap (·.exchanges)) s r.events r.state ∧
        List.Forall₂ (fun (a : String × String) c => (c.host = a.1 ∧ c.line = a.2) ∧
          c.Bracketed options.commandTimeout ∧ c.Tells options.commandTimeout) asked calls) ∧
    ∀ (env : Environment) (settings : Settings) (a : Administration)
        (reenter : Transition → Act (Session σ) Unit) (jobs : List (Instance × Command))
        (s : Session σ),
      let r := (Act.each (fun j => Dispatch.carryOut settings w
        (.onSystem w env settings a reenter) j.1 j.2) jobs).run s
      ∃ deliveries : List Delivery, r.result = .ok (deliveries.map (·.outcome)) ∧
        Traced w (deliveries.flatMap (·.exchanges)) s.world r.events r.state.world ∧
        List.Forall₂ (fun j d => Delivery.Fits settings j.1 j.2 d) jobs deliveries := by
  refine ⟨fun home options asked s => ?_, fun env settings a reenter jobs s => ?_⟩
  · refine Traced.each id (fun a s => ?_) asked s
    obtain ⟨xs, hxs, hbracketed, htells⟩ := RemoteShell.call_run w home options a.1 a.2 s
    exact ⟨⟨a.1, a.2, xs, _⟩, rfl, hxs.traced, ⟨rfl, rfl⟩, hbracketed, htells⟩
  · exact Traced.each (·.world)
      (fun j s => Dispatch.carryOut_delivers settings w env a reenter j.1 j.2 s) jobs s

/-- A world in which one host cannot be reached, and the others write their name. -/
def World.halfReached : World Nat :=
  { flaky with
    connect := fun host _ n =>
      (if host = "b" then .error (.raised (.system .general) "refused" []) else .ok (), n)
    runOver := fun host _ _ n => (.exited 0 host "", n + 1) }

/-- A call gives what the command wrote, and the one after it fails to connect. -/
theorem RemoteShell.calls_bracketed_halfReached :
    let r := (Act.each (fun a => (RemoteShell.run World.halfReached "" {} a.1 a.2).attempt)
      [("a", "hostname"), ("b", "hostname")]).run 0
    ∃ first second : HostCall, r.result = .ok [first.result, second.result] ∧
      (first.host = "a" ∧ first.line = "hostname" ∧ first.result = .ok "a" ∧
        first.Bracketed none ∧ ∃ stderr, first.Exited none 0 "a" stderr) ∧
      second.host = "b" ∧ second.line = "hostname" ∧ second.Bracketed none ∧
        ∃ e, second.result = .error e ∧ e.kind = .reported .execution ∧
          e.context.get? "host" = some (.text "b") := by
  intro r
  let refused : Failure := .unreachable "b" "hostname" (.raised (.system .general) "refused" [])
  have hruns : r.result = .ok [.ok "a", .error refused] := by rfl
  obtain ⟨calls, hresult, -, hcalls⟩ := (RemoteShell.calls_bracketed World.halfReached).1 "" {}
    [("a", "hostname"), ("b", "hostname")] 0
  cases hcalls with
  | @cons _ first _ _ hfirst hrest =>
    cases hrest with
    | @cons _ second _ _ hsecond hnone =>
      cases hnone
      have hresults := Except.ok.inj (hruns.symm.trans hresult)
      obtain ⟨ha, hb⟩ : .ok "a" = first.result ∧ .error refused = second.result := by
        simpa using hresults
      obtain ⟨⟨hhost, hline⟩, hbracketed, htells⟩ := hfirst
      obtain ⟨⟨hhost', hline'⟩, hbracketed', htells'⟩ := hsecond
      obtain ⟨hkind, hcontext, -⟩ := htells'.failure _ hb.symm
      refine ⟨first, second, hresult, ⟨hhost, hline, ha.symm, hbracketed,
        (htells.stdout "a").mp ha.symm⟩, hhost', hline', hbracketed', _, hb.symm, hkind, ?_⟩
      rw [hcontext, hhost']

end ServerFleet
