import ServerFleet.Proofs.Contexts

/-!
# The slot of a context

A cluster has one slot for its context. `Holdings` keeps the books on the contexts that
some steps built: which of them are still held, and which were released. A context is
released when it is closed, or when it is forgotten because it cannot be closed.

* `Tended.slot`: at every moment at most one context is held, the factory is asked only
  while none is, and what was released is not touched again;
* `Cluster.terminate_terminates`: what a termination does with the context that is held;
* `Cluster.failsToClose_iff`: a termination fails to close the context just if the world answers
  so when it comes to that;
* `Cluster.staysOpen`: such a context stays where it is, and the next termination tries to close
  it again;
* `Cluster.slot_discipline`: all of this for every run of a cluster.
-/

namespace ServerFleet

variable {σ : Type}

/-! ## The books -/

/-- The contexts that were built, by their numbers. -/
structure Holdings where
  built : Nat := 0
  /-- Those that were not released. -/
  held : List Nat := []
  released : List Nat := []

/-- The context that a step closes, fails to close, or forgets. -/
def ContextStep.touched? : ContextStep → Option Nat
  | .build _ => none
  | .close number _ | .drop number => some number

namespace Holdings

/-- Enters a step into the books. -/
def enter (h : Holdings) : ContextStep → Holdings
  | .build (.ok _) => { h with built := h.built + 1, held := h.held ++ [h.built + 1] }
  | .build (.error _) | .close _ (.error _) => h
  | .close number (.ok _) | .drop number =>
    { h with held := h.held.erase number, released := h.released ++ [number] }

/-- The books after some steps. -/
def after (steps : List ContextStep) : Holdings := steps.foldl enter {}

/-- The books are those of a session: what is held is the open context, and it was not
released before. -/
structure Matches (h : Holdings) (s : Session σ) : Prop where
  built : h.built = s.contextsBuilt
  held : h.held = (s.context.map OpenContext.number).toList
  le_built : ∀ n, n ∈ h.held ∨ n ∈ h.released → n ≤ h.built
  apart : ∀ n ∈ h.released, n ∉ h.held

variable {h : Holdings} {s t : Session σ}

theorem Matches.of_same (hs : h.Matches s) (context : t.context = s.context)
    (built : t.contextsBuilt = s.contextsBuilt) : h.Matches t :=
  ⟨hs.built.trans built.symm, by rw [context]; exact hs.held, hs.le_built, hs.apart⟩

theorem Matches.held_none (hs : h.Matches s) (hc : s.context = none) : h.held = [] := by
  rw [hs.held, hc]
  rfl

theorem Matches.held_some (hs : h.Matches s) {context : OpenContext}
    (hc : s.context = some context) : h.held = [context.number] := by
  rw [hs.held, hc]
  rfl

theorem Matches.held_length (hs : h.Matches s) : h.held.length ≤ 1 := by
  rcases hc : s.context with _ | context
  · rw [hs.held_none hc]
    exact Nat.zero_le 1
  · rw [hs.held_some hc]
    exact Nat.le_refl 1

end Holdings

namespace ContextStep.Takes

variable {w : World σ} {x : ContextStep} {h : Holdings} {s t : Session σ} {es : List Event}

/-- The context that a step touches is the one that is held. -/
theorem held_of_touched (htakes : x.Takes w s es t) (hs : h.Matches s) {n : Nat}
    (hn : x.touched? = some n) : h.held = [n] := by
  cases htakes with
  | built | notBuilt => cases hn
  | closed isOpen | notClosed isOpen | dropped isOpen =>
    cases hn
    exact hs.held_some isOpen

/-- The factory is asked only while no context is held. -/
theorem held_of_build {outcome : Except Failure ContextShape}
    (htakes : ContextStep.Takes w (.build outcome) s es t) (hs : h.Matches s) : h.held = [] := by
  cases htakes with
  | built empty | notBuilt empty => exact hs.held_none empty

/-- Every step is entered as the session takes it. -/
theorem matches_enter (htakes : x.Takes w s es t) (hs : h.Matches s) : (h.enter x).Matches t := by
  have hreleased {context : OpenContext} (hc : s.context = some context)
      {t : Session σ} (ht : t.context = none) (hbuilt : t.contextsBuilt = s.contextsBuilt) :
      Holdings.Matches
        ⟨h.built, h.held.erase context.number, h.released ++ [context.number]⟩ t := by
    have hheld := hs.held_some hc
    have hnil : h.held.erase context.number = [] := by simp [hheld]
    refine ⟨hs.built.trans hbuilt.symm, ?_, fun n hn => hs.le_built n ?_, fun n _ => ?_⟩
    · rw [ht]
      exact hnil
    · simpa [hheld, or_comm] using hn
    · rw [hnil]
      exact List.not_mem_nil
  cases htakes with
  | built empty answer =>
    have hheld := hs.held_none empty
    refine ⟨congrArg (· + 1) hs.built, ?_, fun n hn => ?_, fun n hn => ?_⟩
    · show h.held ++ [h.built + 1] = [s.contextsBuilt + 1]
      rw [hheld, hs.built]
      rfl
    · rcases hn with hn | hn
      · have : n = h.built + 1 := by simpa [Holdings.enter, hheld] using hn
        exact Nat.le_of_eq this
      · exact Nat.le_succ_of_le (hs.le_built n (.inr hn))
    · have := hs.le_built n (.inr hn)
      simp only [Holdings.enter, hheld, List.nil_append, List.mem_singleton]
      omega
  | notBuilt | notClosed => exact hs.of_same rfl rfl
  | closed isOpen | dropped isOpen => exact hreleased isOpen rfl rfl

end ContextStep.Takes

/-! ## At every moment -/

/-- What holds of all that was done with contexts, at every moment up to now. -/
structure Slot (steps : List ContextStep) : Prop where
  /-- At most one context is held. -/
  single : ∀ before, before <+: steps → (Holdings.after before).held.length ≤ 1
  /-- The factory is asked only while none is held. -/
  builds : ∀ before outcome, before ++ [.build outcome] <+: steps →
    (Holdings.after before).held = []
  /-- Nothing but the context that is held is closed or forgotten. -/
  touches : ∀ before x n, before ++ [x] <+: steps → x.touched? = some n →
    (Holdings.after before).held = [n]
  /-- What was released is not touched again. -/
  releases : ∀ before x n, before ++ [x] <+: steps → n ∈ (Holdings.after before).released →
    x.touched? ≠ some n

namespace Tended

variable {w : World σ} {s t : Session σ} {xs ys : List ContextStep} {es : List Event}
  {h : Holdings}

/-- A run passes through a session after any of its steps. -/
theorem split (htended : Tended w s (xs ++ ys) es t) :
    ∃ m es₁ es₂, Tended w s xs es₁ m ∧ Tended w m ys es₂ t := by
  generalize hzs : xs ++ ys = zs at htended
  induction htended generalizing xs with
  | nil s =>
    obtain ⟨rfl, rfl⟩ := List.append_eq_nil_iff.mp hzs
    exact ⟨s, [], [], .nil s, .nil s⟩
  | aside context built events rest ih =>
    obtain ⟨m, es₁, es₂, h₁, h₂⟩ := ih hzs
    exact ⟨m, _, es₂, .aside context built events h₁, h₂⟩
  | @step s m t x steps es es' takes rest ih =>
    cases xs with
    | nil =>
      obtain rfl : ys = x :: steps := hzs
      exact ⟨s, [], _, .nil s, .step takes rest⟩
    | cons y xs =>
      obtain ⟨rfl, hsteps⟩ := List.cons.inj hzs
      obtain ⟨m, es₁, es₂, h₁, h₂⟩ := ih hsteps
      exact ⟨m, _, es₂, .step takes h₁, h₂⟩

/-- A run that does nothing with contexts. -/
theorem context_eq (htended : Tended w s [] es t) : t.context = s.context := by
  generalize hxs : [] = xs at htended
  induction htended with
  | nil => rfl
  | aside context _ _ _ ih => exact (ih hxs).trans context
  | step => cases hxs

/-- The sessions between which the step of a run is taken. -/
theorem exists_takes {x : ContextStep} (htended : Tended w s [x] es t) :
    ∃ m m' es', m.context = s.context ∧ m.contextsBuilt = s.contextsBuilt ∧ x.Takes w m es' m' ∧
      t.context = m'.context := by
  generalize hxs : [x] = xs at htended
  induction htended with
  | nil => cases hxs
  | aside context built _ _ ih =>
    obtain ⟨m, m', es', hcontext, hbuilt, htakes, hlast⟩ := ih hxs
    exact ⟨m, m', es', hcontext.trans context, hbuilt.trans built, htakes, hlast⟩
  | @step s m t y steps es es' takes rest ih =>
    obtain ⟨rfl, rfl⟩ := List.cons.inj hxs
    exact ⟨s, m, es, rfl, rfl, takes, rest.context_eq⟩

/-- A context that fails to close stays open. -/
theorem context_of_notClosed {n : Nat} {e : Failure}
    (htended : Tended w s [.close n (.error e)] es t) : t.context = s.context := by
  obtain ⟨m, m', es', hcontext, -, htakes, hlast⟩ := htended.exists_takes
  cases htakes with
  | notClosed => exact hlast.trans hcontext

theorem matches_foldl (htended : Tended w s xs es t) (hs : h.Matches s) :
    (xs.foldl Holdings.enter h).Matches t := by
  induction htended generalizing h with
  | nil => exact hs
  | aside context built _ _ ih => exact ih (hs.of_same context built)
  | step takes _ ih => exact ih (takes.matches_enter hs)

/-- The books of a run from a session in which nothing was built are those of its end. -/
theorem matches_after (htended : Tended w s xs es t) (hs : s.context = none)
    (hbuilt : s.contextsBuilt = 0) : (Holdings.after xs).Matches t := by
  refine htended.matches_foldl ⟨hbuilt.symm, by rw [hs]; rfl, fun n hn => ?_, fun n hn => ?_⟩
  · rcases hn with hn | hn <;> cases hn
  · cases hn

/-- A single step of a run from a session in which nothing was built, and the books before
it. -/
theorem takes_after {x : ContextStep} (htended : Tended w s xs es t) (hs : s.context = none)
    (hbuilt : s.contextsBuilt = 0) {before : List ContextStep} (hx : before ++ [x] <+: xs) :
    ∃ m m' es', (Holdings.after before).Matches m ∧ x.Takes w m es' m' := by
  obtain ⟨after, rfl⟩ := hx
  obtain ⟨_, _, _, h₁, -⟩ := htended.split
  obtain ⟨m, _, _, hbefore, hstep⟩ := h₁.split
  obtain ⟨m', m'', es', hcontext, hbuilt', htakes, -⟩ := hstep.exists_takes
  exact ⟨m', m'', es', (hbefore.matches_after hs hbuilt).of_same hcontext hbuilt', htakes⟩

/-- What a run does with contexts is all done with one slot. -/
theorem slot (htended : Tended w s xs es t) (hs : s.context = none)
    (hbuilt : s.contextsBuilt = 0) : Slot xs where
  single before hbefore := by
    obtain ⟨after, rfl⟩ := hbefore
    obtain ⟨m, _, _, h₁, -⟩ := htended.split
    exact (h₁.matches_after hs hbuilt).held_length
  builds before outcome hx := by
    obtain ⟨m, m', es', hm, htakes⟩ := htended.takes_after hs hbuilt hx
    exact htakes.held_of_build hm
  touches before x n hx hn := by
    obtain ⟨m, m', es', hm, htakes⟩ := htended.takes_after hs hbuilt hx
    exact htakes.held_of_touched hm hn
  releases before x n hx hmem hn := by
    obtain ⟨m, m', es', hm, htakes⟩ := htended.takes_after hs hbuilt hx
    refine hm.apart n hmem ?_
    rw [htakes.held_of_touched hm hn]
    exact List.mem_singleton_self n

end Tended

namespace Cluster

variable {k : Cluster σ} {s : Session σ}

/-! ## Asking for the context -/

/-- What a cluster does when it is asked for the context. -/
structure Lends (k : Cluster σ) (now : Holdings) (s : Session σ) : Prop where
  /-- It gives the context that is held, and the factory is not asked. -/
  again : ∀ n, now.held = [n] → ∃ shape, s.context = some ⟨n, shape⟩ ∧
    k.serverContext.run s = ⟨.ok ⟨n, shape⟩, s, []⟩
  /-- If none is held, the factory is asked once, and what it builds is held. -/
  built : now.held = [] → ∀ kind shape world,
    k.world.buildContext s.world = (⟨kind, .ok shape⟩, world) →
      k.serverContext.run s = ⟨.ok ⟨now.built + 1, shape⟩,
        { s with
          world := world
          context := some ⟨now.built + 1, shape⟩
          contextsBuilt := now.built + 1 }, [.contextBuild kind]⟩
  /-- If that fails, none is held still, and the factory is asked again the next time. -/
  notBuilt : now.held = [] → ∀ kind e world,
    k.world.buildContext s.world = (⟨kind, .error e⟩, world) →
      let t : Session σ := { s with world := world }
      k.serverContext.run s = ⟨.error e, t, [.contextBuild kind]⟩ ∧ t.context = none ∧
        (k.serverContext.run t).events = [.contextBuild (k.world.buildContext world).1.kind]
  /-- What was released is not given again. -/
  unreleased : ∀ context, (k.serverContext.run s).result = .ok context →
    context.number ∉ now.released

theorem serverContext_events (hf : k.hasFactory = true) (hc : s.context = none) :
    (k.serverContext.run s).events = [.contextBuild (k.world.buildContext s.world).1.kind] := by
  rcases hb : k.world.buildContext s.world with ⟨⟨kind, e | shape⟩, world⟩
  · rw [serverContext_notBuilt hf hc hb]
  · rw [serverContext_built hf hc hb]

theorem lends (hf : k.hasFactory = true) {now : Holdings} (h : now.Matches s) :
    k.Lends now s := by
  have hnone (hheld : now.held = []) : s.context = none := by
    rcases hc : s.context with _ | context
    · rfl
    · rw [h.held_some hc] at hheld
      cases hheld
  refine ⟨fun n hn => ?_, fun hheld kind shape world hb => ?_, fun hheld kind e world hb => ?_,
    fun context hok hreleased => ?_⟩
  · rcases hc : s.context with _ | context
    · rw [h.held_none hc] at hn
      cases hn
    · obtain rfl : context.number = n := by simpa [h.held_some hc] using hn
      exact ⟨context.shape, rfl, serverContext_open hf hc⟩
  · rw [serverContext_built hf (hnone hheld) hb, h.built]
  · exact ⟨serverContext_notBuilt hf (hnone hheld) hb, hnone hheld,
      serverContext_events (s := { s with world := world }) hf (hnone hheld)⟩
  · rcases hc : s.context with _ | held
    · rcases hb : k.world.buildContext s.world with ⟨⟨kind, e | shape⟩, world⟩
      · rw [serverContext_notBuilt hf hc hb] at hok
        cases hok
      · rw [serverContext_built hf hc hb] at hok
        cases hok
        have := h.le_built _ (.inr hreleased)
        rw [h.built] at this
        exact absurd this (Nat.not_succ_le_self _)
    · rw [serverContext_open hf hc] at hok
      cases hok
      refine h.apart _ hreleased ?_
      rw [h.held_some hc]
      exact List.mem_singleton_self _

/-! ## Terminations -/

/-- The first part of a termination fails if the fleet is started and cannot be stopped. Else
the fleet is not started after it. -/
theorem haltFirst_run (hstaffed : k.Staffed)
    (hs : s.lifecycle.inFlight = some Transition.terminate.name) :
    let r := k.haltFirst.run s
    (∀ e, r.result = .error e → s.lifecycle.phase = .started ∧
        ((Sequence.stopAll (k.crew refuse)).run s).result = .error e) ∧
      ∀ x, r.result = .ok x → r.state.lifecycle.phase =
        if s.lifecycle.phase = .started then .stopped else s.lifecycle.phase := by
  intro r
  by_cases hstarted : s.lifecycle.phase = .started
  · have hr : r = (Sequence.stopAll (k.crew refuse) >>= fun _ =>
        Session.setPhase k.world refuse .stopped Transition.terminate.name).run s :=
      haltFirst_run_of_started k hstarted
    have hat : At s.standing ((Sequence.stopAll (k.crew refuse)).run s).state :=
      (Sequence.stopAll_agree (At.admits s.standing .terminate)
        (hstaffed .terminate s.standing refuse hs (refuse_rebuffs _)) s rfl).2.1
    generalize hrun : (Sequence.stopAll (k.crew refuse)).run s = p at hat
    obtain ⟨e | report, m, es⟩ := p
    · rw [hr, Act.run_bind_of_error hrun]
      exact ⟨by rintro _ ⟨⟩; exact ⟨hstarted, rfl⟩, by rintro _ ⟨⟩⟩
    · have hphase := (Session.setPhase_at k.world (refuse_rebuffs _) hs .stopped
        Transition.terminate.name).of_ok hat (Session.setPhase_ok ..)
      rw [hr, Act.run_bind_of_ok hrun, if_pos hstarted]
      refine ⟨fun e he => ?_, fun x _ => congrArg Standing.phase hphase⟩
      rw [Session.setPhase_ok] at he
      cases he
  · have hr : r = ⟨.ok (), s, []⟩ := haltFirst_run_of_not_started k hstarted
    rw [hr, if_neg hstarted]
    exact ⟨by rintro _ ⟨⟩, fun _ _ => rfl⟩

/-- To close down is to release the context, and goes on without fail. -/
theorem closeDown_releases (k : Cluster σ) (s : Session σ) :
    let r := (closeDown k).run s
    ∃ steps outcome, Releases k.world s steps outcome ∧ r.result = (fun _ => none) <$> outcome ∧
      Tended k.world s steps r.events r.state ∧
      ∀ e, outcome = .error e → r.state.lifecycle = s.lifecycle := by
  intro r
  obtain ⟨hlifecycle, steps, hreleases, htended⟩ := releaseContext_releases k s
  generalize hrun : k.releaseContext.run s = q at hlifecycle hreleases htended
  obtain ⟨e | _, t, es⟩ := q
  · have hr : r = ⟨.error e, t, es⟩ := Act.run_bind_of_error hrun
    rw [hr]
    exact ⟨steps, .error e, hreleases, rfl, htended, fun _ _ => hlifecycle⟩
  · let rest : Act (Session σ) (Option Report) := do
      Dispatch.close
      Session.setPhase k.world refuse .terminated Transition.terminate.name
      return none
    have hr : r = ⟨(rest.run t).result, (rest.run t).state, es ++ (rest.run t).events⟩ :=
      Act.run_bind_of_ok hrun
    have hspares : Spares rest := close_spares.bind fun _ =>
      (Session.setPhase_spares k.world _ _).bind fun _ _ _ => Act.keeps_pure none
    have hok : (rest.run t).result = .ok none := by
      simp only [rest, Dispatch.close, Act.run_bind, Act.run_modify, Act.after,
        Session.setPhase_ok, Act.run_pure]
    rw [hr, hok]
    refine ⟨steps, .ok (), hreleases, rfl, ?_, by rintro _ ⟨⟩⟩
    simpa using htended.append (hspares.tended k.world t)

/-- The first part of a termination of the session `s`, which stops the fleet if it is started. -/
def halting (k : Cluster σ) (s : Session σ) : Ran (Session σ) Unit :=
  k.haltFirst.run (s.claimed Transition.terminate.name)

/-- What a termination of the session `s` does with the context: nothing, if the fleet is started
and cannot be stopped, and otherwise it releases the one that is held. If that fails, the
cluster is stopped. -/
inductive Terminates (k : Cluster σ) (s : Session σ) : Prop
  | notStopped {e : Failure} (halts : (k.halting s).result = .error e)
      (started : s.lifecycle.phase = .started)
      (stops : ((Sequence.stopAll (k.crew refuse)).run
        (s.claimed Transition.terminate.name)).result = .error e)
      (result : ((k.perform .terminate).run s).result = .error e)
      (tended : Tended k.world s [] ((k.perform .terminate).run s).events
        ((k.perform .terminate).run s).state)
  | releases {steps : List ContextStep} {outcome : Except Failure Unit}
      (halts : (k.halting s).result = .ok ())
      (context : (k.halting s).state.context = s.context)
      (releases : Releases k.world (k.halting s).state steps outcome)
      (result : ((k.perform .terminate).run s).result = (fun _ => none) <$> outcome)
      (tended : Tended k.world s steps ((k.perform .terminate).run s).events
        ((k.perform .terminate).run s).state)
      (failed : ∀ e, outcome = .error e →
        ((k.perform .terminate).run s).state.lifecycle.phase = .stopped)

theorem terminate_terminates (hk : k.Spared) (hstaffed : k.Staffed) (hs : s.Idle) :
    k.Terminates s := by
  let c := s.claimed Transition.terminate.name
  let q := (k.haltFirst >>= fun _ => k.closeDown).run c
  have hr : (k.perform .terminate).run s = ⟨q.result, q.state.released, q.events⟩ := by
    rw [perform, body_terminate]
    exact Session.during_run hs _
  have hhalt : Tended k.world c [] (k.halting s).events (k.halting s).state :=
    (haltFirst_spares hk).tended k.world c
  obtain ⟨hfailed, hphase⟩ := haltFirst_run hstaffed (s := c) rfl
  rcases hhalts : (k.halting s).result with e | _
  · have hrun : k.haltFirst.run c = ⟨.error e, (k.halting s).state, (k.halting s).events⟩ := by
      rw [← hhalts]
      rfl
    have hq : q = ⟨.error e, (k.halting s).state, (k.halting s).events⟩ :=
      Act.run_bind_of_error hrun
    obtain ⟨hstarted, hstop⟩ := hfailed e hhalts
    refine .notStopped hhalts hstarted hstop ?_ ?_ <;> rw [hr, hq]
    exact hhalt.of_claimed
  · have hrun : k.haltFirst.run c = ⟨.ok (), (k.halting s).state, (k.halting s).events⟩ := by
      rw [← hhalts]
      rfl
    have hq : q = ⟨_, _, _⟩ := Act.run_bind_of_ok hrun
    have hstopped : (k.halting s).state.lifecycle.phase = .stopped := by
      refine (hphase () hhalts).trans ?_
      have hterm : c.lifecycle.phase ≠ .terminated := hs.phase
      cases hc : c.lifecycle.phase <;> simp_all
    obtain ⟨steps, outcome, hreleases, hresult, htended, hsame⟩ :=
      closeDown_releases k (k.halting s).state
    refine .releases hhalts hhalt.context_eq hreleases ?_ ?_ fun e he => ?_ <;> rw [hr, hq]
    · exact hresult
    · exact (hhalt.append htended).of_claimed
    · exact (congrArg Lifecycle.phase (hsame e he)).trans hstopped

/-! ## A context that fails to close -/

/-- Only a termination does anything with a context that is open. -/
theorem serve_tended_nil (hk : k.Spared) {context : OpenContext} (hc : s.context = some context)
    {r : Request} (hr : r ≠ .transition .terminate) :
    Tended k.world s [] ((k.serve r).run s).events ((k.serve r).run s).state := by
  cases r with
  | transition t =>
    have ht : t ≠ .terminate := fun h => hr (by rw [h])
    rw [serve, interrupt_run]
    by_cases hs : s.Idle
    · rw [perform, Session.during_run hs]
      exact ((body_spares hk ht).tended k.world (s.claimed t.name)).of_claimed
    · obtain ⟨refusal, -, hrun⟩ := Session.during_refused hs t.name (k.body t)
      rw [perform, hrun]
      exact .nil s
  | context =>
    have hrun : (k.serve .context).run s = ⟨(fun _ => ()) <$> (k.serverContext.run s).result,
        (k.serverContext.run s).state, (k.serverContext.run s).events⟩ := Act.after_value _ _
    rw [hrun]
    rcases hf : k.hasFactory with _ | _
    · rw [serverContext, hf]
      exact .nil s
    · rw [serverContext_open hf hc]
      exact .nil s
  | register callback => exact .of_same rfl rfl (by rintro _ ⟨⟩)

theorem serveAll_tended_nil (hk : k.Spared) {context : OpenContext} {s : Session σ}
    (hc : s.context = some context) {rs : List Request} (hrs : .transition .terminate ∉ rs) :
    Tended k.world s [] ((k.serveAll rs).run s).events ((k.serveAll rs).run s).state := by
  induction rs generalizing s with
  | nil => exact .nil s
  | cons r rs ih =>
    obtain ⟨hstate, hevents⟩ := serveAll_cons (k := k) r rs s
    obtain ⟨hr, hrs⟩ := not_or.mp (mt List.mem_cons.mpr hrs)
    have hfirst := serve_tended_nil hk hc (Ne.symm hr)
    rw [hstate, hevents]
    exact hfirst.append (ih (hfirst.context_eq.trans hc) hrs)

/-- Only a start ever starts the fleet. -/
theorem serve_not_started (hk : k.Staffed) (hs : Ready s) (hphase : s.lifecycle.phase ≠ .started)
    {r : Request} (hr : r ≠ .transition .start) :
    ((k.serve r).run s).state.lifecycle.phase ≠ .started := by
  by_cases ht : ∃ t, r = .transition t
  · obtain ⟨t, rfl⟩ := ht
    have hlawful := lawful hk hs.unclaimed t
    rw [serve, interrupt_run]
    rcases hresult : ((k.perform t).run s).result with e | report
    · rcases hlawful.failed e hresult with hsame | ⟨-, hstopped⟩
      · exact fun h => hphase (hsame.symm.trans h)
      · rw [hstopped]
        decide
    · refine fun h => hr ?_
      have hgoal : t.goal = .started := (hlawful.done report hresult).1.symm.trans h
      cases t <;> first | rfl | cases hgoal
  · have hsame := (serve_aside (k := k) (fun t he => ht ⟨t, he⟩) _ _ _ _ s
      ⟨rfl, rfl, rfl, rfl⟩).2.1.1
    exact fun h => hphase (hsame.symm.trans h)

theorem serveAll_not_started (hk : k.Staffed) {s : Session σ} (hs : Ready s)
    (hphase : s.lifecycle.phase ≠ .started) {rs : List Request} (hrs : .transition .start ∉ rs) :
    ((k.serveAll rs).run s).state.lifecycle.phase ≠ .started := by
  induction rs generalizing s with
  | nil => exact hphase
  | cons r rs ih =>
    obtain ⟨hr, hrs⟩ := not_or.mp (mt List.mem_cons.mpr hrs)
    rw [(serveAll_cons r rs s).1]
    exact ih (hs.serve hk r) (serve_not_started hk hs hphase (Ne.symm hr)) hrs

/-- A fleet is stopped for certain by collaborators that fail only as their calls permit. -/
theorem stopAll_ok {settings : Settings} {topology : Topology} {w : World σ}
    (hw : ∀ c s, (w.control c s).Meets (fun _ => True) c.Permits) (hs : s.poolOpen = true) :
    ∃ report, ((Sequence.stopAll (Crew.direct settings topology w refuse)).run s).result =
      .ok report := by
  have hquiet (c : ControlCall) (t : σ) : (w.control c t).Meets
      (fun t => Quiet (refuse t : Act (Session σ) Unit)) c.Permits :=
    (hw c t).imp fun t _ => refuse_quiet t
  have hat : FollowsAt (calls hquiet) s
      (Sequence.stopAll (Crew.direct settings topology w refuse)) _ _ :=
    Sequence.stopAll_follows s hs
  obtain ⟨-, report, hr, -⟩ := hat.never_fails fun l es t hfit step e hmem _ => by
    cases step with
    | dispatch target command isLocal => trivial
    | request r | wait seconds | purge roles =>
      exact hfit.2 _ hmem _ rfl
  exact ⟨report, hr⟩

/-- A termination of the session `s` comes to close the context `n`, and the world answers with
the failure `e`. -/
structure FailsToClose (k : Cluster σ) (s : Session σ) (n : Nat) (e : Failure) : Prop where
  phase : s.lifecycle.phase ≠ .terminated
  halts : (k.halting s).result = .ok ()
  isOpen : ∃ shape, s.context = some ⟨n, shape⟩ ∧ shape.closable = true
  answer : (k.world.closeContext n (k.halting s).state.world).1 = .error e

/-- What comes of a termination of the session `s` that failed with `e` to close the context `n`,
and what comes after it. -/
structure StaysOpen (k : Cluster σ) (s : Session σ) (n : Nat) (e : Failure) : Prop where
  failed : ((k.perform .terminate).run s).result = .error e
  phase : ((k.perform .terminate).run s).state.lifecycle.phase = .stopped
  isOpen : ∃ shape, s.context = some ⟨n, shape⟩ ∧
    ((k.perform .terminate).run s).state.context = some ⟨n, shape⟩
  /-- Until the next termination, nothing is done with the context. -/
  meanwhile : ∀ more, .transition .terminate ∉ more →
    let left := ((k.perform .terminate).run s).state
    let r := (k.serveAll more).run left
    Tended k.world left [] r.events r.state
  /-- The next termination tries to close it again, unless the fleet was started in the
  meantime and could not be stopped. -/
  again : ∀ more, .transition .terminate ∉ more →
    let t := ((k.serveAll more).run ((k.perform .terminate).run s).state).state
    let r := (k.perform .terminate).run t
    (∃ outcome, Tended k.world t [.close n outcome] r.events r.state) ∨
    (.transition .start ∈ more ∧ t.lifecycle.phase = .started ∧
      ∃ e, ((Sequence.stopAll (k.crew refuse)).run
          (t.claimed Transition.terminate.name)).result = .error e ∧
        r.result = .error e ∧ Tended k.world t [] r.events r.state)

/-- How a termination fails to close the context, as far as it can be seen of it. -/
theorem FailsToClose.ends (hk : k.Spared) (hstaffed : k.Staffed) (hs : Ready s) {n : Nat}
    {e : Failure} (h : k.FailsToClose s n e) :
    let q := (k.perform .terminate).run s
    q.result = .error e ∧ q.state.lifecycle.phase = .stopped ∧
      Tended k.world s [.close n (.error e)] q.events q.state := by
  intro q
  obtain ⟨shape, hc, hclosable⟩ := h.isOpen
  cases terminate_terminates hk hstaffed ⟨h.phase, hs.unclaimed⟩ with
  | notStopped halts => cases halts.symm.trans h.halts
  | releases halts kept releases result tended failed =>
    rw [hc] at kept
    have hanswer := h.answer
    cases releases with
    | nothing empty => cases empty.symm.trans kept
    | closed isOpen closable answer =>
      obtain rfl := Option.some.inj (isOpen.symm.trans kept)
      cases answer.symm.trans hanswer
    | notClosed isOpen closable answer =>
      obtain rfl := Option.some.inj (isOpen.symm.trans kept)
      obtain rfl := Except.error.inj (answer.symm.trans hanswer)
      exact ⟨result, failed _ rfl, tended⟩
    | dropped isOpen closable =>
      obtain rfl := Option.some.inj (isOpen.symm.trans kept)
      cases hclosable.symm.trans closable

/-- A termination fails to close the context if the world answers so, and this can be seen: the
context was to be closed, and the termination failed. -/
theorem failsToClose_iff (hk : k.Spared) (hstaffed : k.Staffed) (hs : Ready s) (n : Nat)
    (e : Failure) : k.FailsToClose s n e ↔
      .contextClose n ∈ ((k.perform .terminate).run s).events ∧
        ((k.perform .terminate).run s).result = .error e := by
  constructor
  · intro h
    obtain ⟨hresult, -, htended⟩ := h.ends hk hstaffed hs
    exact ⟨htended.event_of_close (List.mem_singleton_self _), hresult⟩
  · rintro ⟨hclose, hfailed⟩
    have hphase : s.lifecycle.phase ≠ .terminated := fun hp => by
      rw [perform_terminated hp] at hclose
      cases hclose
    cases terminate_terminates hk hstaffed ⟨hphase, hs.unclaimed⟩ with
    | notStopped halts started stops result tended =>
      obtain ⟨outcome, hmem⟩ := tended.close_of_event hclose rfl
      cases hmem
    | releases halts kept releases result tended failed =>
      obtain ⟨outcome, hmem⟩ := tended.close_of_event hclose rfl
      rw [hfailed] at result
      cases releases with
      | nothing | closed | dropped => cases result
      | @notClosed context e' isOpen closable answer =>
        cases List.mem_singleton.mp hmem
        obtain rfl : e = e' := Except.error.inj result
        exact ⟨hphase, halts, ⟨context.shape, kept.symm.trans isOpen, closable⟩, answer⟩

/-- A termination that fails to close the context keeps it. -/
theorem staysOpen (hk : k.Spared) (hstaffed : k.Staffed) (hs : Ready s) {n : Nat} {e : Failure}
    (h : k.FailsToClose s n e) : k.StaysOpen s n e := by
  let left := ((k.perform .terminate).run s).state
  have hleft : Ready left := hs.perform hstaffed .terminate
  obtain ⟨shape, hc, hclosable⟩ := h.isOpen
  obtain ⟨hfailed, hphase, htended⟩ := h.ends hk hstaffed hs
  have hcontext : left.context = some ⟨n, shape⟩ := htended.context_of_notClosed.trans hc
  refine ⟨hfailed, hphase, ⟨shape, hc, hcontext⟩, fun more hmore =>
    serveAll_tended_nil hk hcontext hmore, fun more hmore => ?_⟩
  intro t r
  have hready : Ready t := hleft.serveAll hstaffed more
  have ht : t.context = some ⟨n, shape⟩ :=
    (serveAll_tended_nil hk hcontext hmore).context_eq.trans hcontext
  have hterm : t.lifecycle.phase ≠ .terminated := by
    intro hterm
    obtain ⟨before, after, rfl, -⟩ :=
      serveAll_terminates hstaffed hleft (by rw [hphase]; decide) hterm
    exact hmore (List.mem_append_right _ (List.mem_cons_self ..))
  cases terminate_terminates hk hstaffed ⟨hterm, hready.unclaimed⟩ with
  | notStopped halts started stops result tended =>
    refine .inr ⟨Classical.not_not.mp fun hstart => ?_, started, _, stops, result, tended⟩
    exact serveAll_not_started hstaffed hleft (by rw [hphase]; decide) hstart started
  | releases halts kept releases result tended failed =>
    rw [ht] at kept
    cases releases with
    | nothing empty => cases empty.symm.trans kept
    | closed isOpen | notClosed isOpen =>
      obtain rfl := Option.some.inj (isOpen.symm.trans kept)
      exact .inl ⟨_, tended⟩
    | dropped isOpen closable =>
      obtain rfl := Option.some.inj (isOpen.symm.trans kept)
      cases hclosable.symm.trans closable

/-- After any requests to a cluster, whatever its collaborators and callbacks do and whichever
calls of the factory or of a context fail:

* at every moment so far at most one context was held, the factory was asked only while none
  was, and no context was touched after its release (`Slot`);
* the context that is held is given if it is asked for, and if there is none, the factory is
  asked for one; no context is given that was released (`Lends`);
* a termination closes or forgets the context that is held, once the fleet is stopped
  (`Terminates`);
* if the world answers that the context cannot be closed, which is when the termination is seen
  to close it and fails (`FailsToClose`), the context is kept, with the cluster stopped, and the
  next termination tries to close it again (`StaysOpen`). It does so for certain if the
  collaborators fail only as their calls permit. -/
theorem slot_discipline (w : World σ) (settings : Settings) (topology : Topology) (world : σ)
    (identity : Identity) (ownIdentity : Option Identity) (rs : List Request) :
    let k := played w settings topology true
    let fresh := Session.fresh world identity ownIdentity
    let s := ((k.serveAll rs).run fresh).state
    let q := (k.perform .terminate).run s
    (∃ steps, Tended w fresh steps ((k.serveAll rs).run fresh).events s ∧ Slot steps ∧
      (Holdings.after steps).Matches s ∧ k.Lends (Holdings.after steps) s) ∧
    (s.lifecycle.phase ≠ .terminated → k.Terminates s) ∧
    ∀ n e, (k.FailsToClose s n e ↔ .contextClose n ∈ q.events ∧ q.result = .error e) ∧
      (k.FailsToClose s n e → k.StaysOpen s n e ∧
        ((∀ c s, (w.control c s).Meets (fun _ => True) c.Permits) →
          ∀ more, .transition .terminate ∉ more →
            let t := ((k.serveAll more).run q.state).state
            let r := (k.perform .terminate).run t
            ∃ outcome, Tended w t [.close n outcome] r.events r.state)) := by
  intro k fresh s q
  have hk : k.Spared := played_spared w settings topology true
  have hstaffed : k.Staffed := played_staffed w settings topology true
  have hs : Ready s := (Ready.fresh world identity ownIdentity).serveAll hstaffed rs
  refine ⟨?_, fun hphase => terminate_terminates hk hstaffed ⟨hphase, hs.unclaimed⟩,
    fun n e => ⟨failsToClose_iff hk hstaffed hs n e, fun hfails => ?_⟩⟩
  · obtain ⟨steps, htended, -⟩ := serveAll_tended hk rs fresh
    have hmatches : (Holdings.after steps).Matches s := htended.matches_after rfl rfl
    exact ⟨steps, htended, htended.slot rfl rfl, hmatches, lends rfl hmatches⟩
  · have hstays := staysOpen hk hstaffed hs hfails
    refine ⟨hstays, fun hw more hmore => (hstays.again more hmore).resolve_right ?_⟩
    rintro ⟨-, hstarted, e', hstop, -⟩
    let t := ((k.serveAll more).run q.state).state
    have hready : Ready t := (hs.perform hstaffed .terminate).serveAll hstaffed more
    have hopen : (t.claimed Transition.terminate.name).poolOpen = true :=
      hready.isOpen (by rw [hstarted]; decide)
    obtain ⟨report, hok⟩ : ∃ report, ((Sequence.stopAll (k.crew refuse)).run
        (t.claimed Transition.terminate.name)).result = .ok report := stopAll_ok hw hopen
    rw [hstop] at hok
    cases hok

-- A context that fails to close at the first attempt is still there, and is closed at the second.
example :
    let first := reluctantRun [.context, .transition .terminate]
    let second := (reluctant.perform .terminate).run first.state
    first.state.lifecycle.phase = .stopped ∧ first.state.context.map OpenContext.number = some 1 ∧
      first.events.filterMap Event.closedContext? = [1] ∧
      second.events.filterMap Event.closedContext? = [1] ∧ second.state.context = none := by
  decide +kernel

end Cluster

end ServerFleet
