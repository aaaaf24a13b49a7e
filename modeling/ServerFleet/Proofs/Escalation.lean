import ServerFleet.Proofs.Calls

/-!
# What is started is stopped for certain

The steps that a cluster has taken are its history. A history is `Quelled` if no
instance is started in its last part, and every instance started before that part
is stopped and then killed in it. Stopping a fleet quells any history of it
(`Quelled.stopAll`), and what starts nothing keeps it quelled (`Quelled.append`).

What is quelled shows in the calls that are made: after the last call that starts
an instance come one that stops it and one that kills it (`Quelled.calls`).
-/

namespace ServerFleet

/-- Whether a step starts an instance. -/
def Step.Starts : Step → Prop
  | dispatch _ .start _ => True
  | _ => False

namespace Plan

variable {p : Scope} {v : Views} {C D : Command → Prop}

/-- The instances of a fleet. -/
def Fleet (p : Scope) (target : Instance) : Prop :=
  ∃ role, ∃ host ∈ p.topology.hosts role, target ∈ instances p.workersPerHost role host

/-- Every command in some steps is one of `C`, for an instance of the fleet, and goes
where the dispatcher's identity says. -/
def Sends (p : Scope) (v : Views) (C : Command → Prop) (l : List Step) : Prop :=
  ∀ target c isLocal, .dispatch target c isLocal ∈ l →
    C c ∧ isLocal = v.dispatcher.knows target.host ∧ Fleet p target

theorem Sends.append {l₁ l₂ : List Step} (h₁ : Sends p v C l₁) (h₂ : Sends p v C l₂) :
    Sends p v C (l₁ ++ l₂) := by
  intro target c isLocal h
  rcases List.mem_append.mp h with h | h
  · exact h₁ _ _ _ h
  · exact h₂ _ _ _ h

theorem Sends.subset {l₁ l₂ : List Step} (h : Sends p v C l₂) (hl : l₁ ⊆ l₂) :
    Sends p v C l₁ := fun _ _ _ hm => h _ _ _ (hl hm)

theorem Sends.imp {l : List Step} (h : Sends p v C l) (hC : ∀ c, C c → D c) :
    Sends p v D l := fun _ _ _ hm => ⟨hC _ (h _ _ _ hm).1, (h _ _ _ hm).2⟩

/-- Steps that are no commands send none. -/
theorem sends_of_others {l : List Step} (h : ∀ target c isLocal, .dispatch target c isLocal ∉ l) :
    Sends p v C l := fun _ _ _ hm => absurd hm (h _ _ _)

theorem sends_tell {c : Command} (hc : C c) (role : Role) :
    Sends p v C (tell p v c role (p.topology.hosts role)) := by
  intro target c' isLocal h
  obtain ⟨hc', hlocal, hfleet⟩ := mem_tell p v h
  exact ⟨hc' ▸ hc, hlocal, role, hfleet⟩

theorem sends_tellAll {c : Command} (hc : C c) (roles : List Role) :
    Sends p v C (tellAll p v c roles) := by
  intro target c' isLocal h
  obtain ⟨role, -, h⟩ := List.mem_flatMap.mp h
  exact sends_tell hc role _ _ _ h

/-- Starting a fleet takes commands to start alone. -/
theorem sends_startAll : Sends p v (· = .start) (startAll p v) :=
  (sends_tell (C := (· = .start)) rfl .worker).append
    (sends_tellAll (C := (· = .start)) rfl singletons)

theorem startAll_dispatches {step : Step} (h : step ∈ startAll p v) :
    ∃ target c isLocal, step = .dispatch target c isLocal := by
  have htell {role : Role} {hosts : List String} (h : step ∈ tell p v .start role hosts) :
      ∃ target c isLocal, step = .dispatch target c isLocal := by
    obtain ⟨host, -, h⟩ := List.mem_flatMap.mp h
    obtain ⟨target, -, rfl⟩ := List.mem_map.mp h
    exact ⟨_, _, _, rfl⟩
  rcases List.mem_append.mp h with h | h
  · exact htell h
  · obtain ⟨role, -, h⟩ := List.mem_flatMap.mp h
    exact htell h

/-- Stopping a fleet starts nothing. -/
theorem sends_stopAll : Sends p v (· ≠ .start) (stopAll p v) := by
  let C : Command → Prop := (· ≠ .start)
  have hstop : C .stop := nofun
  have hkill : C .kill := nofun
  have hworkers : Sends p v C (stopWorkers p v) := by
    refine (sends_tell hstop .worker).append ?_
    have hwait : Sends p v C [.wait p.workerGrace] := sends_of_others (by simp)
    exact hwait.append ((sends_tell hkill .worker).append (sends_of_others (by simp)))
  refine Sends.append (Sends.append (Sends.append (Sends.append ?_ ?_) ?_) hworkers) ?_
  · exact sends_of_others (by simp)
  · exact sends_tellAll hstop singletons
  · exact sends_tellAll hkill singletons
  · exact sends_of_others (by simp)

/-- Stopping a fleet stops and then kills each of its instances. -/
theorem stopAll_stops {target : Instance} (h : Fleet p target) :
    [.dispatch target .stop (v.dispatcher.knows target.host),
      .dispatch target .kill (v.dispatcher.knows target.host)].Sublist (stopAll p v) := by
  obtain ⟨role, host, hh, ht⟩ := h
  have htell (c : Command) : [Step.dispatch target c (v.dispatcher.knows target.host)].Sublist
      (tell p v c role (p.topology.hosts role)) := by
    refine List.singleton_sublist.mpr (List.mem_flatMap.mpr ⟨host, hh, ?_⟩)
    refine List.mem_map.mpr ⟨target, ht, ?_⟩
    rw [host_of_mem_instances ht]
  have hrole : role = .worker ∨ role ∈ singletons := by cases role <;> simp [singletons]
  rcases hrole with rfl | hrole
  · have hworkers : [.dispatch target .stop (v.dispatcher.knows target.host),
        .dispatch target .kill (v.dispatcher.knows target.host)].Sublist (stopWorkers p v) :=
      (htell .stop).append (.cons _ ((htell .kill).trans (List.sublist_append_left _ _)))
    exact hworkers.trans
      ((List.sublist_append_right _ _).trans (List.sublist_append_left _ _))
  · have hall (c : Command) : [Step.dispatch target c (v.dispatcher.knows target.host)].Sublist
        (tellAll p v c singletons) :=
      List.singleton_sublist.mpr
        (List.mem_flatMap.mpr ⟨role, hrole, List.singleton_sublist.mp (htell c)⟩)
    have hsweeps : [.dispatch target .stop (v.dispatcher.knows target.host),
        .dispatch target .kill (v.dispatcher.knows target.host)].Sublist
        (tellAll p v .stop singletons ++ tellAll p v .kill singletons) :=
      (hall .stop).append (hall .kill)
    have hrest := hsweeps.trans (List.sublist_append_left _
      (stopWorkers p v ++ [.purge [.coordinator, .worker, .tracer]]))
    have hwhole := hrest.trans
      (List.sublist_append_right [.request .stopAll, .wait p.adminGrace] _)
    simpa only [stopAll, List.append_assoc] using hwhole

end Plan

/-! ## Histories -/

/-- Nothing is started in the last part of a history, in which all that was started
before it is stopped and then killed. -/
def Quelled (history : List Step) : Prop :=
  ∃ before after, history = before ++ after ∧ (∀ step ∈ after, ¬ step.Starts) ∧
    ∀ target isLocal, .dispatch target .start isLocal ∈ before →
      [.dispatch target .stop isLocal, .dispatch target .kill isLocal].Sublist after

namespace Quelled

theorem nil : Quelled [] := ⟨[], [], rfl, nofun, nofun⟩

theorem append {history l : List Step} (h : Quelled history) (hl : ∀ step ∈ l, ¬ step.Starts) :
    Quelled (history ++ l) := by
  obtain ⟨before, after, rfl, hafter, hstops⟩ := h
  refine ⟨before, after ++ l, List.append_assoc .., fun step hm => ?_, fun target isLocal hm => ?_⟩
  · rcases List.mem_append.mp hm with hm | hm
    · exact hafter step hm
    · exact hl step hm
  · exact (hstops target isLocal hm).trans (List.sublist_append_left _ _)

theorem not_starts {p : Scope} {v : Views} {l : List Step} (h : Plan.Sends p v (· ≠ .start) l) :
    ∀ step ∈ l, ¬ step.Starts := by
  intro step hm hs
  cases step with
  | dispatch target c isLocal =>
    cases c with
    | start => exact (h _ _ _ hm).1 rfl
    | _ => exact hs
  | _ => exact hs

/-- To stop a fleet quells whatever was done with it. -/
theorem stopAll {p : Scope} {v : Views} {history : List Step}
    (h : Plan.Sends p v (fun _ => True) history) : Quelled (history ++ Plan.stopAll p v) := by
  refine ⟨history, Plan.stopAll p v, rfl, not_starts Plan.sends_stopAll, ?_⟩
  intro target isLocal hm
  obtain ⟨-, hlocal, hfleet⟩ := h _ _ _ hm
  rw [hlocal]
  exact Plan.stopAll_stops hfleet

end Quelled

/-! ## Calls to start -/

/-- The characters that the names of commands end in tell them apart. -/
theorem Command.append_name_inj {a b : String} {c d : Command} (h : a ++ c.name = b ++ d.name) :
    a = b ∧ c = d := by
  have hlast (x : String) (c : Command) :
      (x ++ c.name).toList.getLast? = c.name.toList.getLast? := by
    rw [String.toList_append, List.getLast?_append]
    cases c <;> rfl
  have hcd : c = d := by
    have hend : c.name.toList.getLast? = d.name.toList.getLast? := by rw [← hlast a, h, hlast b]
    revert hend
    cases c <;> cases d <;> decide
  subst hcd
  exact ⟨(String.append_left_inj c.name).mp h, rfl⟩

/-- The last word of a command line, after a blank, ends it. -/
theorem Text.Shell.join_snoc (word last : String) (words : List String) :
    join (words ++ [word, last]) = join (words ++ [word]) ++ " " ++ quote last := by
  have hsplit : (words ++ [word, last]).map quote =
      (words ++ [word]).map quote ++ [quote last] := by
    simp
  rw [join, hsplit, String.intercalate_append_of_ne_nil (by simp) (by simp),
    String.intercalate_singleton, join]

theorem Command.quote_name (c : Command) : Text.Shell.quote c.name = c.name := by
  cases c <;> decide

namespace Step

/-- The command line of an instance's call on another host, but for the command. -/
def lineHead (settings : Settings) (words : List String) (target : Instance) : String :=
  settings.instanceVariable ++ "=" ++ Text.Shell.quote target.exported ++ " " ++
    (Text.Shell.join (words ++ [target.role.name]) ++ " ")

theorem call_remote (settings : Settings) (words : List String) (target : Instance) (c : Command) :
    call settings words (.dispatch target c false) =
      .runRemote target.host (lineHead settings words target ++ c.name) := by
  rw [call, Text.Shell.join_snoc, Command.quote_name, lineHead]
  simp only [String.append_assoc]

/-- Commands of which one makes the same calls make the same calls for every
command. -/
theorem call_dispatch_inj {settings : Settings} {words : List String} {step : Step}
    {target : Instance} {c : Command} {isLocal : Bool}
    (h : step.call settings words = call settings words (.dispatch target c isLocal)) :
    ∃ target', step = .dispatch target' c isLocal ∧ ∀ d,
      call settings words (.dispatch target' d isLocal) =
        call settings words (.dispatch target d isLocal) := by
  cases step with
  | dispatch target' c' isLocal' =>
    cases isLocal' with
    | false =>
      cases isLocal with
      | true => rw [call_remote] at h; cases h
      | false =>
        rw [call_remote, call_remote] at h
        obtain ⟨hhost, hline⟩ := ControlCall.runRemote.inj h
        obtain ⟨hhead, rfl⟩ := Command.append_name_inj hline
        exact ⟨target', rfl, fun d => by rw [call_remote, call_remote, hhost, hhead]⟩
    | true =>
      cases isLocal with
      | false => rw [call_remote] at h; cases h
      | true =>
        obtain ⟨hargv, henv, -⟩ := ControlCall.runLocal.inj h
        obtain ⟨hrole, hname⟩ : target'.role.name = target.role.name ∧ c'.name = c.name := by
          simpa using hargv
        obtain rfl := Command.name_injective hname
        exact ⟨target', rfl, fun d => by rw [call, call, hrole, henv]⟩
  | _ => cases isLocal <;> cases h

end Step

/-- A call for an instance can be made only if the words of the settings can be
read. -/
theorem Dispatch.words_of_callFor {settings : Settings} {isLocal : Bool} {target : Instance}
    {c : Command} {call : ControlCall} (h : callFor settings isLocal target c = .ok call) :
    ∃ launcher script, wordsOf settings.launcher = .ok launcher ∧
      wordsOf settings.serviceScript = .ok script := by
  cases hw : serviceWords settings target c with
  | error e =>
    have hfail : callFor settings isLocal target c = .error e := by
      unfold callFor commandLine
      rw [hw]
      cases isLocal <;> rfl
    cases h.symm.trans hfail
  | ok words =>
    obtain ⟨launcher, script, hl, hs, -⟩ := serviceWords_eq_ok_iff.mp hw
    exact ⟨launcher, script, hl, hs⟩

/-- The last place of a member of a list. -/
theorem eq_append_cons_of_mem_last {α : Type} {x : α} {l : List α} (h : x ∈ l) :
    ∃ before after, l = before ++ x :: after ∧ x ∉ after := by
  obtain ⟨after, before, hl, hx⟩ := List.eq_append_cons_of_mem (List.mem_reverse.mpr h)
  refine ⟨before.reverse, after.reverse, ?_, mt List.mem_reverse.mp hx⟩
  rw [← List.reverse_reverse l, hl]
  simp

/-- In a quelled history, the last call that starts an instance is followed by one
that stops it and one that kills it. -/
theorem Quelled.calls {settings : Settings} {history : List Step} (h : Quelled history)
    {target : Instance} {isLocal : Bool} {issue : Command → ControlCall}
    (hissue : ∀ c, Dispatch.callFor settings isLocal target c = .ok (issue c))
    (hmem : issue .start ∈ history.filterMap (Step.call? settings)) :
    ∃ before after, history.filterMap (Step.call? settings) = before ++ issue .start :: after ∧
      issue .start ∉ after ∧ [issue .stop, issue .kill].Sublist after := by
  obtain ⟨before, after, rfl, hafter, hstops⟩ := h
  obtain ⟨launcher, script, hl, hs⟩ := Dispatch.words_of_callFor (hissue .start)
  have hcall (c : Command) :
      Step.call settings (launcher ++ script) (.dispatch target c isLocal) = issue c :=
    Except.ok.inj ((Step.callFor_eq hl hs (.dispatch target c isLocal)).symm.trans (hissue c))
  rw [Step.filterMap_call? hl hs, List.map_append] at hmem ⊢
  generalize launcher ++ script = words at *
  have hinv {step : Step} (he : step.call settings words = issue .start) :
      ∃ target', step = .dispatch target' .start isLocal ∧
        ∀ c, Step.call settings words (.dispatch target' c isLocal) = issue c := by
    obtain ⟨target', rfl, hsame⟩ := Step.call_dispatch_inj (he.trans (hcall .start).symm)
    exact ⟨target', rfl, fun c => (hsame c).trans (hcall c)⟩
  have hnone : issue .start ∉ after.map (Step.call settings words) := by
    intro hm
    obtain ⟨step, hstep, he⟩ := List.mem_map.mp hm
    obtain ⟨target', rfl, -⟩ := hinv he
    exact hafter _ hstep trivial
  have hsome : issue .start ∈ before.map (Step.call settings words) :=
    (List.mem_append.mp hmem).resolve_right hnone
  obtain ⟨step, hstep, he⟩ := List.mem_map.mp hsome
  obtain ⟨target', rfl, hsame⟩ := hinv he
  have hsub := (hstops target' isLocal hstep).map (Step.call settings words)
  rw [List.map_cons, List.map_cons, List.map_nil, hsame, hsame] at hsub
  obtain ⟨pre, post, hsplit, hpost⟩ := eq_append_cons_of_mem_last hsome
  refine ⟨pre, post ++ after.map (Step.call settings words), ?_, ?_, ?_⟩
  · rw [hsplit]
    simp
  · rw [List.mem_append]
    exact not_or.mpr ⟨hpost, hnone⟩
  · exact hsub.trans (List.sublist_append_right _ _)

end ServerFleet
