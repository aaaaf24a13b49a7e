import ServerFleet.Proofs.Calls
import ServerFleet.Proofs.Handle

/-!
# Contexts of a cluster

What a cluster does with its coordination contexts is a sequence of steps
(`ContextStep`): the factory is asked for a context, an open context is closed, or one
that cannot be closed is forgotten. `Tended` ties such steps to the events of a run and to
what the world answered.

Contexts are numbered by their builds. Of those that a run builds, each one is closed or
forgotten by the end, but for the one that is open then (`Tended.settled`).

A termination that succeeds leaves no context open. The context can still be asked for
afterwards, though, and then it is built again while no transition that would close it
can be claimed any more. Hence the contexts of a terminated cluster are all closed if and
only if none was built after the termination (`Cluster.terminated_allClosed_iff`).
-/

namespace ServerFleet

open Act (Agree Keeps Leads)

variable {σ α β : Type}

/-- Something that is done with a context. -/
inductive ContextStep where
  /-- The factory is asked for a context. -/
  | build (outcome : Except Failure ContextShape)
  /-- The open context is closed, or fails to close. -/
  | close (number : Nat) (outcome : Except Failure Unit)
  /-- The open context cannot be closed, and is forgotten. -/
  | drop (number : Nat)

/-- The number of the context that is closed, or fails to close. -/
def Event.closedContext? : Event → Option Nat
  | .contextClose number => some number
  | _ => none

/-- An event of the factory or of a context. -/
def Event.Contextual : Event → Prop
  | .contextBuild _ | .contextClose _ => True
  | _ => False

theorem Event.contextual_of_closed {e : Event} {n : Nat} (h : e.closedContext? = some n) :
    e.Contextual := by
  cases e with
  | contextClose number => trivial
  | _ => cases h

/-- The factory gives a context. -/
def ContextStep.gives : ContextStep → Bool
  | .build (.ok _) => true
  | _ => false

/-! ## Steps and their runs -/

/-- A step as the session and the world take it, with the events it causes. -/
inductive ContextStep.Takes (w : World σ) :
    ContextStep → Session σ → List Event → Session σ → Prop
  | built {s : Session σ} {kind : String} {shape : ContextShape} {world : σ}
      (empty : s.context = none)
      (answer : w.buildContext s.world = (⟨kind, .ok shape⟩, world)) :
      Takes w (.build (.ok shape)) s [.contextBuild kind]
        { s with
          world := world
          context := some ⟨s.contextsBuilt + 1, shape⟩
          contextsBuilt := s.contextsBuilt + 1 }
  | notBuilt {s : Session σ} {kind : String} {e : Failure} {world : σ}
      (empty : s.context = none)
      (answer : w.buildContext s.world = (⟨kind, .error e⟩, world)) :
      Takes w (.build (.error e)) s [.contextBuild kind] { s with world := world }
  | closed {s : Session σ} {context : OpenContext} {world : σ}
      (isOpen : s.context = some context) (closable : context.shape.closable = true)
      (answer : w.closeContext context.number s.world = (.ok (), world)) :
      Takes w (.close context.number (.ok ())) s [.contextClose context.number]
        { s with world := world, context := none }
  | notClosed {s : Session σ} {context : OpenContext} {e : Failure} {world : σ}
      (isOpen : s.context = some context) (closable : context.shape.closable = true)
      (answer : w.closeContext context.number s.world = (.error e, world)) :
      Takes w (.close context.number (.error e)) s [.contextClose context.number]
        { s with world := world }
  | dropped {s : Session σ} {context : OpenContext}
      (isOpen : s.context = some context) (closable : context.shape.closable = false) :
      Takes w (.drop context.number) s [] { s with context := none }

/-- A run from one session to another, with its events, that does with contexts what the
steps say, in order, and nothing else. -/
inductive Tended (w : World σ) : Session σ → List ContextStep → List Event → Session σ → Prop
  | nil (s : Session σ) : Tended w s [] [] s
  | aside {s t u : Session σ} {steps : List ContextStep} {es es' : List Event}
      (context : t.context = s.context) (built : t.contextsBuilt = s.contextsBuilt)
      (events : ∀ e ∈ es, ¬ e.Contextual)
      (rest : Tended w t steps es' u) : Tended w s steps (es ++ es') u
  | step {s t u : Session σ} {x : ContextStep} {steps : List ContextStep} {es es' : List Event}
      (takes : x.Takes w s es t) (rest : Tended w t steps es' u) :
      Tended w s (x :: steps) (es ++ es') u

namespace Tended

variable {w : World σ} {s t u : Session σ} {xs ys : List ContextStep} {es es' : List Event}

theorem append (h : Tended w s xs es t) (h' : Tended w t ys es' u) :
    Tended w s (xs ++ ys) (es ++ es') u := by
  induction h with
  | nil => exact h'
  | aside context built events _ ih =>
    rw [List.append_assoc]
    exact aside context built events (ih h')
  | step takes _ ih => rw [List.append_assoc]; exact step takes (ih h')

theorem of_same (context : t.context = s.context) (built : t.contextsBuilt = s.contextsBuilt)
    (events : ∀ e ∈ es, ¬ e.Contextual) : Tended w s [] es t := by
  simpa using aside context built events (nil t)

theorem single {x : ContextStep} (takes : x.Takes w s es t) : Tended w s [x] es t := by
  simpa using step takes (nil t)

/-- To claim a session and to release it is nothing to contexts. -/
theorem of_claimed {transition : String} (h : Tended w (s.claimed transition) xs es t) :
    Tended w s xs es t.released := by
  have hclaim : Tended w s [] [] (s.claimed transition) := of_same rfl rfl (by simp)
  have hrelease : Tended w t [] [] t.released := of_same rfl rfl (by simp)
  simpa using hclaim.append (h.append hrelease)

end Tended

/-! ## What becomes of each context -/

/-- The numbers of open contexts are those of builds that were made. -/
def Session.Numbered (s : Session σ) : Prop :=
  ∀ context, s.context = some context → context.number ≤ s.contextsBuilt

/-- The open context can be closed. -/
def Session.Closable (s : Session σ) : Prop :=
  ∀ context, s.context = some context → context.shape.closable = true

/-- Every context that the factory gives can be closed. -/
def World.BuildsClosable (w : World σ) : Prop :=
  ∀ world shape, (w.buildContext world).1.outcome = .ok shape → shape.closable = true

namespace ContextStep.Takes

variable {w : World σ} {x : ContextStep} {s t : Session σ} {es : List Event}

theorem numbered (h : x.Takes w s es t) (hs : s.Numbered) : t.Numbered := by
  cases h with
  | built => rintro _ ⟨⟩; exact Nat.le_refl _
  | notBuilt | notClosed => exact hs
  | closed | dropped => rintro _ ⟨⟩

theorem closable (hw : w.BuildsClosable) (h : x.Takes w s es t) (hs : s.Closable) :
    t.Closable := by
  cases h with
  | built empty answer =>
    rintro _ ⟨⟩
    exact hw s.world _ (by rw [answer])
  | notBuilt | notClosed => exact hs
  | closed | dropped => rintro _ ⟨⟩

theorem contextsBuilt (h : x.Takes w s es t) :
    t.contextsBuilt = s.contextsBuilt + if x.gives then 1 else 0 := by
  cases h <;> rfl

/-- What is open before a step is closed or forgotten by it, or open after it. -/
theorem of_open (h : x.Takes w s es t) {context : OpenContext} (hs : s.context = some context) :
    x = .close context.number (.ok ()) ∨ x = .drop context.number ∨ t.context = some context := by
  cases h with
  | built empty | notBuilt empty => rw [empty] at hs; cases hs
  | closed isOpen => rw [isOpen] at hs; cases hs; exact .inl rfl
  | notClosed => exact .inr (.inr hs)
  | dropped isOpen => rw [isOpen] at hs; cases hs; exact .inr (.inl rfl)

/-- What is built by a step is open after it. -/
theorem of_built (h : x.Takes w s es t) {n : Nat} (hs : s.contextsBuilt < n)
    (ht : n ≤ t.contextsBuilt) : ∃ context, t.context = some context ∧ context.number = n := by
  cases h with
  | built => exact ⟨_, rfl, Nat.le_antisymm hs ht⟩
  | notBuilt | closed | notClosed | dropped => exact absurd ht (Nat.not_le_of_gt hs)

/-- Only a context that is open is closed. -/
theorem of_close {n : Nat} {outcome : Except Failure Unit}
    (h : ContextStep.Takes w (.close n outcome) s es t) :
    ∃ context, s.context = some context ∧ context.number = n := by
  cases h with
  | closed isOpen | notClosed isOpen => exact ⟨_, isOpen, rfl⟩

theorem of_event (h : x.Takes w s es t) {e : Event} {n : Nat} (hmem : e ∈ es)
    (hn : e.closedContext? = some n) : ∃ outcome, x = .close n outcome := by
  cases h with
  | built | notBuilt => obtain rfl := List.mem_singleton.mp hmem; cases hn
  | closed | notClosed =>
    obtain rfl := List.mem_singleton.mp hmem
    cases hn
    exact ⟨_, rfl⟩
  | dropped => cases hmem

/-- Only a context that cannot be closed is forgotten. -/
theorem of_drop {n : Nat} (h : ContextStep.Takes w (.drop n) s es t) : ¬ s.Closable := by
  cases h with
  | dropped isOpen closable =>
    intro hs
    rw [hs _ isOpen] at closable
    cases closable

end ContextStep.Takes

namespace Tended

variable {w : World σ} {s t : Session σ} {steps : List ContextStep} {es : List Event}

theorem contextsBuilt (h : Tended w s steps es t) :
    t.contextsBuilt = s.contextsBuilt + steps.countP ContextStep.gives := by
  induction h with
  | nil => rfl
  | aside _ built _ _ ih => rw [ih, built]
  | step takes _ ih => rw [ih, takes.contextsBuilt, List.countP_cons]; omega

theorem closable (hw : w.BuildsClosable) (h : Tended w s steps es t) (hs : s.Closable) :
    t.Closable ∧ ∀ n, .drop n ∉ steps := by
  induction h with
  | nil => exact ⟨hs, fun _ => List.not_mem_nil⟩
  | aside context _ _ _ ih => exact ih fun c hc => hs c (context ▸ hc)
  | step takes _ ih =>
    obtain ⟨ht, hdrop⟩ := ih (takes.closable hw hs)
    refine ⟨ht, fun n hmem => ?_⟩
    rcases List.mem_cons.mp hmem with rfl | hmem
    · exact takes.of_drop hs
    · exact hdrop n hmem

/-- What is closed on the way was open at first, or built before the end. -/
theorem number_le (h : Tended w s steps es t) (hs : s.Numbered) {n : Nat}
    {outcome : Except Failure Unit} (hmem : .close n outcome ∈ steps) : n ≤ t.contextsBuilt := by
  induction h with
  | nil => cases hmem
  | aside context built _ _ ih =>
    exact ih (fun c hc => built ▸ hs c (context ▸ hc)) hmem
  | step takes rest ih =>
    rcases List.mem_cons.mp hmem with rfl | hmem
    · obtain ⟨context, hopen, rfl⟩ := takes.of_close
      have hbuilt := rest.contextsBuilt
      have htakes := takes.contextsBuilt
      have := hs context hopen
      omega
    · exact ih (takes.numbered hs) hmem

/-- A context that is seen to be closed is closed by a step. -/
theorem close_of_event (h : Tended w s steps es t) {e : Event} {n : Nat} (hmem : e ∈ es)
    (hn : e.closedContext? = some n) : ∃ outcome, .close n outcome ∈ steps := by
  induction h with
  | nil => cases hmem
  | aside _ _ events _ ih =>
    rcases List.mem_append.mp hmem with hmem | hmem
    · exact absurd (Event.contextual_of_closed hn) (events e hmem)
    · exact ih hmem
  | step takes _ ih =>
    rcases List.mem_append.mp hmem with hmem | hmem
    · obtain ⟨outcome, rfl⟩ := takes.of_event hmem hn
      exact ⟨outcome, List.mem_cons_self ..⟩
    · obtain ⟨outcome, hstep⟩ := ih hmem
      exact ⟨outcome, List.mem_cons_of_mem _ hstep⟩

/-- To close a context, or to fail to, can be seen. -/
theorem event_of_close (h : Tended w s steps es t) {n : Nat} {outcome : Except Failure Unit}
    (hmem : .close n outcome ∈ steps) : .contextClose n ∈ es := by
  induction h with
  | nil => cases hmem
  | aside _ _ _ _ ih => exact List.mem_append_right _ (ih hmem)
  | step takes _ ih =>
    rcases List.mem_cons.mp hmem with rfl | hmem
    · refine List.mem_append_left _ ?_
      cases takes <;> exact List.mem_singleton_self _
    · exact List.mem_append_right _ (ih hmem)

/-- What is open at first is closed or forgotten on the way, or open at the end. -/
theorem settled_of_open (h : Tended w s steps es t) {context : OpenContext}
    (hs : s.context = some context) :
    .close context.number (.ok ()) ∈ steps ∨ .drop context.number ∈ steps ∨
      t.context = some context := by
  induction h with
  | nil => exact .inr (.inr hs)
  | aside same _ _ _ ih => exact ih (same.trans hs)
  | step takes _ ih =>
    rcases takes.of_open hs with rfl | rfl | hopen
    · exact .inl (List.mem_cons_self ..)
    · exact .inr (.inl (List.mem_cons_self ..))
    · exact (ih hopen).imp (List.mem_cons_of_mem _) (.imp_left (List.mem_cons_of_mem _))

/-- What is built on the way is closed or forgotten, or open at the end. -/
theorem settled (h : Tended w s steps es t) {n : Nat} (hs : s.contextsBuilt < n)
    (ht : n ≤ t.contextsBuilt) :
    .close n (.ok ()) ∈ steps ∨ .drop n ∈ steps ∨
      ∃ context, t.context = some context ∧ context.number = n := by
  induction h with
  | nil => exact absurd ht (Nat.not_le_of_gt hs)
  | aside _ built _ _ ih => exact ih (built ▸ hs) ht
  | @step s m t x steps es es' takes rest ih =>
    by_cases hm : n ≤ m.contextsBuilt
    · obtain ⟨context, hopen, rfl⟩ := takes.of_built hs hm
      exact (rest.settled_of_open hopen).imp (List.mem_cons_of_mem _)
        (.imp (List.mem_cons_of_mem _) fun h => ⟨context, h, rfl⟩)
    · exact (ih (Nat.lt_of_not_le hm) ht).imp (List.mem_cons_of_mem _)
        (.imp_left (List.mem_cons_of_mem _))

end Tended

/-- All of the contexts that were built by some time were closed by the steps. -/
def AllClosed (built : Nat) (steps : List ContextStep) : Prop :=
  ∀ n, 1 ≤ n → n ≤ built → .close n (.ok ()) ∈ steps

namespace Tended

variable {w : World σ} {s t u : Session σ} {early late : List ContextStep} {es es' : List Event}

/-- Contexts that can be closed are all closed when none is open. -/
theorem allClosed (hw : w.BuildsClosable) (h : Tended w s early es t) (hs : s.context = none)
    (hbuilt : s.contextsBuilt = 0) (ht : t.context = none) :
    AllClosed t.contextsBuilt early := by
  intro n hpos hle
  have hclosable : s.Closable := by intro c hc; rw [hs] at hc; cases hc
  rcases h.settled (n := n) (by omega) hle with hclosed | hdropped | ⟨context, hopen, -⟩
  · exact hclosed
  · exact absurd hdropped ((h.closable hw hclosable).2 n)
  · rw [ht] at hopen
    cases hopen

/-- If nothing more is closed, all contexts are closed just if none more is built. -/
theorem allClosed_append_iff (h : Tended w s early es t) (hs : s.Numbered)
    (ht : AllClosed t.contextsBuilt early) (h' : Tended w t late es' u)
    (hlate : ∀ n outcome, .close n outcome ∉ late) :
    AllClosed u.contextsBuilt (early ++ late) ↔ ∀ shape, .build (.ok shape) ∉ late := by
  have hbuilt := h'.contextsBuilt
  constructor
  · intro hall shape hmem
    have hmore : 0 < late.countP ContextStep.gives := List.countP_pos_iff.mpr ⟨_, hmem, rfl⟩
    rcases List.mem_append.mp (hall u.contextsBuilt (by omega) (Nat.le_refl _)) with hmem | hmem
    · have := h.number_le hs hmem
      omega
    · exact hlate _ _ hmem
  · intro hnone n hpos hle
    have hzero : late.countP ContextStep.gives = 0 := by
      refine List.countP_eq_zero.mpr fun x hx hgives => ?_
      match x, hgives with
      | .build (.ok shape), _ => exact hnone shape hx
    exact List.mem_append_left _ (ht n hpos (by omega))

end Tended

/-! ## Actions -/

/-- An action that leaves contexts alone. -/
def Spares (a : Act (Session σ) α) : Prop :=
  ∀ context built, Keeps (fun s => s.context = context ∧ s.contextsBuilt = built)
    (fun e => ¬ e.Contextual) a

theorem Spares.tended {a : Act (Session σ) α} (h : Spares a) (w : World σ) (s : Session σ) :
    Tended w s [] (a.run s).events (a.run s).state :=
  have hkept := h s.context s.contextsBuilt s ⟨rfl, rfl⟩
  .of_same hkept.2.1.1 hkept.2.1.2 hkept.2.2

theorem Spares.bind {a : Act (Session σ) α} {f : α → Act (Session σ) β} (h : Spares a)
    (hf : ∀ x, Spares (f x)) : Spares (a >>= f) :=
  fun context built => (h context built).bind fun x => hf x context built

/-- Every run of the action does with contexts what some steps say. -/
def Tends (w : World σ) (a : Act (Session σ) α) : Prop :=
  ∀ s, ∃ steps, Tended w s steps (a.run s).events (a.run s).state

theorem Spares.tends {a : Act (Session σ) α} (h : Spares a) (w : World σ) : Tends w a :=
  fun s => ⟨[], h.tended w s⟩

theorem Tends.bind {w : World σ} {a : Act (Session σ) α} {f : α → Act (Session σ) β}
    (h : Tends w a) (hf : ∀ x, Tends w (f x)) : Tends w (a >>= f) := by
  intro s
  obtain ⟨xs, htended⟩ := h s
  rw [Act.run_bind]
  generalize a.run s = r at htended
  obtain ⟨_ | x, t, es⟩ := r
  · exact ⟨xs, htended⟩
  · obtain ⟨ys, htended'⟩ := hf x t
    exact ⟨xs ++ ys, htended.append htended'⟩

/-! ## Transitions -/

variable {k : Cluster σ}

/-- What a collaborator or a callback does while transitions are refused. -/
theorem Session.react_spares (r : Reaction σ) : Spares (Session.react Cluster.refuse r) :=
  fun _ _ => react_keeps (fun _ _ h => h) (fun _ _ h => h) (fun _ _ => id)
    (Reaction.meets_of_forall (fun t => Cluster.refuse_keeps (fun _ _ h => h) t) r)

theorem Session.setPhase_spares (w : World σ) (phase : Phase) (transition : String) :
    Spares (Session.setPhase w Cluster.refuse phase transition) := fun context built =>
  Leads.agree ((Session.setPhase_leads
    (J := fun s => s.context = context ∧ s.contextsBuilt = built) w (fun _ h => h)
    (fun r => Session.react_spares r context built) (fun _ _ _ _ => id) (fun _ _ => id)
    transition).imp (fun _ _ h => h) nofun)

namespace Cluster

/-- While transitions are refused, the collaborators leave contexts alone. -/
def Spared (k : Cluster σ) : Prop :=
  ∀ context built, (k.staff refuse).Agree
    (fun s => s.context = context ∧ s.contextsBuilt = built) (fun e => ¬ e.Contextual)
    (k.staff refuse)

theorem played_spared (w : World σ) (settings : Settings) (topology : Topology)
    (hasFactory : Bool) : (played w settings topology hasFactory).Spared := by
  intro context built
  have hcall (c : ControlCall) : Keeps (fun s => s.context = context ∧ s.contextsBuilt = built)
      (fun e => ¬ e.Contextual) (Session.call w refuse c) :=
    (Act.keeps_record id).bind fun _ => Act.keeps_get.bind fun s =>
      Session.react_spares (w.control c s.world) context built
  exact ⟨fun _ _ _ => hcall _, fun _ _ => hcall _, fun _ => hcall _, fun _ => hcall _,
    fun _ => hcall _⟩

theorem spared_admits (context : Option OpenContext) (built : Nat) :
    Admits (fun s : Session σ => s.context = context ∧ s.contextsBuilt = built)
      (fun e => ¬ e.Contextual) :=
  ⟨fun _ _ _ h => h, fun _ _ => id, fun _ => id⟩

theorem stopAll_spares (hk : k.Spared) : Spares (Sequence.stopAll (k.crew refuse)) :=
  fun context built =>
    Sequence.stopAll_agree (spared_admits context built) (hk context built)

theorem serverContext_open {s : Session σ} {context : OpenContext} (hf : k.hasFactory = true)
    (hc : s.context = some context) : k.serverContext.run s = ⟨.ok context, s, []⟩ := by
  simp [serverContext, hf, Act.run_bind, Act.after, hc]

theorem serverContext_built {s : Session σ} {kind : String} {shape : ContextShape} {world : σ}
    (hf : k.hasFactory = true) (hc : s.context = none)
    (hb : k.world.buildContext s.world = (⟨kind, .ok shape⟩, world)) :
    k.serverContext.run s = ⟨.ok ⟨s.contextsBuilt + 1, shape⟩,
      { s with
        world := world
        context := some ⟨s.contextsBuilt + 1, shape⟩
        contextsBuilt := s.contextsBuilt + 1 }, [.contextBuild kind]⟩ := by
  simp only [serverContext, hf, if_true, Act.run_bind, Act.run_get, Act.after, hc, hb]
  rfl

theorem serverContext_notBuilt {s : Session σ} {kind : String} {e : Failure} {world : σ}
    (hf : k.hasFactory = true) (hc : s.context = none)
    (hb : k.world.buildContext s.world = (⟨kind, .error e⟩, world)) :
    k.serverContext.run s = ⟨.error e, { s with world := world }, [.contextBuild kind]⟩ := by
  simp [serverContext, hf, Act.run_bind, Act.after, hc, hb]

/-- To ask for the context is to build one if none is open. -/
theorem serverContext_tends (k : Cluster σ) (s : Session σ) : ∃ steps,
    Tended k.world s steps (k.serverContext.run s).events (k.serverContext.run s).state ∧
      ∀ n outcome, .close n outcome ∉ steps := by
  rcases hf : k.hasFactory with _ | _
  · have hrun : k.serverContext.run s = ⟨.error .noContextFactory, s, []⟩ := by
      simp [serverContext, hf]
    exact ⟨[], by rw [hrun]; exact .nil s, fun _ _ => List.not_mem_nil⟩
  rcases hc : s.context with _ | context
  · rcases hb : k.world.buildContext s.world with ⟨⟨kind, e | shape⟩, world⟩
    · refine ⟨[.build (.error e)], ?_, by simp⟩
      rw [serverContext_notBuilt hf hc hb]
      exact .single (.notBuilt hc hb)
    · refine ⟨[.build (.ok shape)], ?_, by simp⟩
      rw [serverContext_built hf hc hb]
      exact .single (.built hc hb)
  · refine ⟨[], ?_, fun _ _ => List.not_mem_nil⟩
    rw [serverContext_open hf hc]
    exact .nil s

/-- What is done with the open context when it is to be released from the session `s`, and how
that ends: it is closed or fails to close, as the world answers, or it is forgotten. -/
inductive Releases (w : World σ) (s : Session σ) :
    List ContextStep → Except Failure Unit → Prop
  | nothing (empty : s.context = none) : Releases w s [] (.ok ())
  | closed {context : OpenContext} (isOpen : s.context = some context)
      (closable : context.shape.closable = true)
      (answer : (w.closeContext context.number s.world).1 = .ok ()) :
      Releases w s [.close context.number (.ok ())] (.ok ())
  | notClosed {context : OpenContext} {e : Failure} (isOpen : s.context = some context)
      (closable : context.shape.closable = true)
      (answer : (w.closeContext context.number s.world).1 = .error e) :
      Releases w s [.close context.number (.error e)] (.error e)
  | dropped {context : OpenContext} (isOpen : s.context = some context)
      (closable : context.shape.closable = false) :
      Releases w s [.drop context.number] (.ok ())

/-- To release the context is to close or to forget the one that is open. -/
theorem releaseContext_releases (k : Cluster σ) (s : Session σ) :
    let r := k.releaseContext.run s
    r.state.lifecycle = s.lifecycle ∧
      ∃ steps, Releases k.world s steps r.result ∧
        Tended k.world s steps r.events r.state := by
  intro r
  rcases hc : s.context with _ | context
  · have hrun : r = ⟨.ok (), s, []⟩ := by
      simp [r, releaseContext, Act.run_bind, Act.after, hc]
    rw [hrun]
    exact ⟨rfl, [], .nothing hc, .nil s⟩
  rcases hclosable : context.shape.closable with _ | _
  · have hrun : r = ⟨.ok (), { s with context := none }, []⟩ := by
      simp [r, releaseContext, Act.run_bind, Act.after, hc, hclosable]
    rw [hrun]
    exact ⟨rfl, _, .dropped hc hclosable, .single (.dropped hc hclosable)⟩
  · have hlog : ∀ e ∈ [Event.log .debug "Closing coordination context"], ¬ e.Contextual := by
      simp [Event.Contextual]
    rcases hw : k.world.closeContext context.number s.world with ⟨e | _, world⟩
    · have hrun : r = ⟨.error e, { s with world := world },
          [.log .debug "Closing coordination context"] ++ [.contextClose context.number]⟩ := by
        simp [r, releaseContext, Session.inWorld, Act.run_bind, Act.after, hc, hclosable, hw]
      rw [hrun]
      exact ⟨rfl, _, .notClosed hc hclosable (congrArg Prod.fst hw),
        .aside rfl rfl hlog (.single (.notClosed hc hclosable hw))⟩
    · have hrun : r = ⟨.ok (), { s with world := world, context := none },
          [.log .debug "Closing coordination context"] ++ [.contextClose context.number]⟩ := by
        simp [r, releaseContext, Session.inWorld, Act.run_bind, Act.after, hc, hclosable, hw]
      rw [hrun]
      exact ⟨rfl, _, .closed hc hclosable (congrArg Prod.fst hw),
        .aside rfl rfl hlog (.single (.closed hc hclosable hw))⟩

theorem close_spares : Spares (Dispatch.close : Act (Session σ) Unit) := fun context built => by
  refine Act.keeps_modify ?_
  exact fun _ h => h

/-- Only a termination does anything with contexts. -/
theorem body_spares (hk : k.Spared) {t : Transition} (ht : t ≠ .terminate) : Spares (k.body t) := by
  have hphase (phase : Phase) (report : Option Report) : Spares (do
      Session.setPhase k.world refuse phase t.name
      return report) :=
    (Session.setPhase_spares k.world phase t.name).bind fun _ =>
      fun _ _ => Act.keeps_pure report
  cases t with
  | start =>
    have hgoal : Spares (Sequence.setGoal (k.crew refuse) Sequence.normalGoal) :=
      fun context built =>
        Sequence.setGoal_agree (spared_admits context built) (hk context built) _
    have hstart : Spares (Sequence.startAll (k.crew refuse)) := fun context built =>
      Sequence.startAll_agree (spared_admits context built) (hk context built)
    exact hgoal.bind fun _ => hstart.bind fun report => hphase .started (some report)
  | stop => exact (stopAll_spares hk).bind fun report => hphase .stopped (some report)
  | terminate => exact absurd rfl ht

theorem haltFirst_spares (hk : k.Spared) : Spares k.haltFirst := by
  refine fun context built => Act.keeps_get.bind fun s => ?_
  split
  · exact (stopAll_spares hk context built).bind fun _ =>
      Session.setPhase_spares k.world .stopped _ context built
  · exact Act.keeps_pure ()

/-- What a transition does with contexts once it is claimed. -/
theorem body_tends (hk : k.Spared) (t : Transition) : Tends k.world (k.body t) := by
  by_cases ht : t = .terminate
  · have hend : Spares (do
        Dispatch.close
        Session.setPhase k.world refuse .terminated Transition.terminate.name
        return (none : Option Report)) :=
      close_spares.bind fun _ => (Session.setPhase_spares k.world .terminated _).bind fun _ =>
        fun _ _ => Act.keeps_pure none
    have hrelease : Tends k.world k.releaseContext := fun s => by
      obtain ⟨-, steps, -, htended⟩ := releaseContext_releases k s
      exact ⟨steps, htended⟩
    rw [ht, body_terminate]
    exact ((haltFirst_spares hk).tends _).bind fun _ => hrelease.bind fun _ => hend.tends _
  · exact (body_spares hk ht).tends _

theorem perform_tends (hk : k.Spared) (t : Transition) : Tends k.world (k.perform t) := by
  intro s
  by_cases hs : s.Idle
  · obtain ⟨steps, htended⟩ := body_tends hk t (s.claimed t.name)
    refine ⟨steps, ?_⟩
    rw [perform, Session.during_run hs]
    exact htended.of_claimed
  · obtain ⟨refusal, -, hrun⟩ := Session.during_refused hs t.name (k.body t)
    exact ⟨[], by rw [perform, hrun]; exact .nil s⟩

/-! ## Runs -/

theorem serve_tended (hk : k.Spared) (r : Request) (s : Session σ) : ∃ steps,
    Tended k.world s steps ((k.serve r).run s).events ((k.serve r).run s).state ∧
      (s.lifecycle.phase = .terminated → ∀ n outcome, .close n outcome ∉ steps) := by
  cases r with
  | transition t =>
    rw [serve, interrupt_run]
    by_cases hs : s.lifecycle.phase = .terminated
    · rw [perform_terminated hs]
      exact ⟨[], .nil s, fun _ _ _ => List.not_mem_nil⟩
    · obtain ⟨steps, htended⟩ := perform_tends hk t s
      exact ⟨steps, htended, fun h => absurd h hs⟩
  | context =>
    have hrun : (k.serve .context).run s = ⟨(fun _ => ()) <$> (k.serverContext.run s).result,
        (k.serverContext.run s).state, (k.serverContext.run s).events⟩ := Act.after_value _ _
    obtain ⟨steps, htended, hclose⟩ := serverContext_tends k s
    rw [hrun]
    exact ⟨steps, htended, fun _ => hclose⟩
  | register callback =>
    exact ⟨[], .of_same rfl rfl (by rintro _ ⟨⟩), fun _ _ _ => List.not_mem_nil⟩

/-- A run of a cluster does with contexts what some steps say. Once the cluster is
terminated, nothing is closed any more. -/
theorem serveAll_tended (hk : k.Spared) (rs : List Request) (s : Session σ) : ∃ steps,
    Tended k.world s steps ((k.serveAll rs).run s).events ((k.serveAll rs).run s).state ∧
      (s.lifecycle.phase = .terminated → ∀ n outcome, .close n outcome ∉ steps) := by
  induction rs generalizing s with
  | nil => exact ⟨[], .nil s, fun _ _ _ => List.not_mem_nil⟩
  | cons r rs ih =>
    obtain ⟨hstate, hevents⟩ := serveAll_cons (k := k) r rs s
    obtain ⟨xs, htended, hclose⟩ := serve_tended hk r s
    obtain ⟨ys, htended', hclose'⟩ := ih ((k.serve r).run s).state
    rw [hstate, hevents]
    refine ⟨xs ++ ys, htended.append htended', fun hs n outcome hmem => ?_⟩
    rcases List.mem_append.mp hmem with hmem | hmem
    · exact hclose hs n outcome hmem
    · exact hclose' (serve_terminated hs r) n outcome hmem

/-- What terminates a cluster is a termination, and no context is open after it. -/
theorem serve_terminates (hk : k.Staffed) {r : Request} {s : Session σ} (hs : Ready s)
    (hphase : s.lifecycle.phase ≠ .terminated)
    (hterm : ((k.serve r).run s).state.lifecycle.phase = .terminated) :
    r = .transition .terminate ∧ ((k.serve r).run s).state.context = none := by
  by_cases ht : ∃ t, r = .transition t
  · obtain ⟨t, rfl⟩ := ht
    have hlawful := lawful hk hs.unclaimed t
    rw [serve, interrupt_run] at hterm ⊢
    rcases hresult : ((k.perform t).run s).result with e | report
    · rcases hlawful.failed e hresult with hsame | ⟨-, hstopped⟩
      · exact absurd (hsame.symm.trans hterm) hphase
      · rw [hstopped] at hterm
        cases hterm
    · have hgoal : t.goal = .terminated := (hlawful.done report hresult).1.symm.trans hterm
      obtain rfl : t = .terminate := by cases t <;> first | rfl | cases hgoal
      have hrun : (Session.during Transition.terminate.name (k.body .terminate)).run s = _ :=
        Session.during_run ⟨hphase, hs.unclaimed⟩ (k.body .terminate)
      have hbody : ((k.body .terminate).run (s.claimed Transition.terminate.name)).result =
          .ok report := by rw [perform, hrun] at hresult; exact hresult
      have hafter := body_ok hk (s := s.claimed Transition.terminate.name) rfl hbody
      refine ⟨rfl, ?_⟩
      rw [perform, hrun]
      exact congrArg Standing.context hafter
  · have haside := (serve_aside (k := k) (fun t he => ht ⟨t, he⟩) _ _ _ _ s
      ⟨rfl, rfl, rfl, rfl⟩).2.1.1
    exact absurd (haside.symm.trans hterm) hphase

/-- Every run that ends in a terminated cluster has terminated it at some point. -/
theorem serveAll_terminates (hk : k.Staffed) {rs : List Request} {s : Session σ} (hs : Ready s)
    (hphase : s.lifecycle.phase ≠ .terminated)
    (hterm : ((k.serveAll rs).run s).state.lifecycle.phase = .terminated) :
    ∃ before after, rs = before ++ .transition .terminate :: after ∧
      let t := ((k.serveAll (before ++ [.transition .terminate])).run s).state
      ((k.serveAll before).run s).state.lifecycle.phase ≠ .terminated ∧
        t.lifecycle.phase = .terminated ∧ t.context = none := by
  induction rs generalizing s with
  | nil => exact absurd hterm hphase
  | cons r rs ih =>
    rw [(serveAll_cons r rs s).1] at hterm
    by_cases hfirst : ((k.serve r).run s).state.lifecycle.phase = .terminated
    · obtain ⟨rfl, hcontext⟩ := serve_terminates hk hs hphase hfirst
      exact ⟨[], rs, rfl, hphase, hfirst, hcontext⟩
    · obtain ⟨before, after, rfl, h⟩ := ih (hs.serve hk r) hfirst hterm
      refine ⟨r :: before, after, rfl, ?_⟩
      rw [List.cons_append, (serveAll_cons r before s).1, (serveAll_cons r _ s).1]
      exact h

/-- A run that terminates the cluster: the requests before the termination and after it,
and what was done with contexts up to its end and afterwards. -/
structure Termination (k : Cluster σ) (s : Session σ) (rs : List Request) where
  before : List Request
  after : List Request
  early : List ContextStep
  late : List ContextStep
  requests : rs = before ++ .transition .terminate :: after
  running : ((k.serveAll before).run s).state.lifecycle.phase ≠ .terminated
  /-- The session that the termination leaves. -/
  ended : Session σ
  ended_eq : ended = ((k.serveAll (before ++ [.transition .terminate])).run s).state
  terminated : ended.lifecycle.phase = .terminated
  tended_early : Tended k.world s early
    ((k.serveAll (before ++ [.transition .terminate])).run s).events ended
  tended_late : Tended k.world ended late ((k.serveAll after).run ended).events
    ((k.serveAll rs).run s).state

/-- Suppose that a cluster is terminated after some requests, and that its contexts can
be closed. Then one of the requests terminated it, and by then all contexts that were
built had been closed. Nothing is closed afterwards, whatever is asked of the cluster.
Hence all contexts are closed just if none was built after the termination. -/
theorem terminated_allClosed_iff (w : World σ) (settings : Settings) (topology : Topology)
    (world : σ) (identity : Identity) (ownIdentity : Option Identity)
    (hw : w.BuildsClosable) (rs : List Request)
    (hterm : (((played w settings topology true).serveAll rs).run
      (Session.fresh world identity ownIdentity)).state.lifecycle.phase = .terminated) :
    let k := played w settings topology true
    let fresh := Session.fresh world identity ownIdentity
    ∃ x : k.Termination fresh rs,
      AllClosed x.ended.contextsBuilt x.early ∧
      (∀ n outcome, .close n outcome ∉ x.late) ∧
      (AllClosed ((k.serveAll rs).run fresh).state.contextsBuilt (x.early ++ x.late) ↔
        ∀ shape, .build (.ok shape) ∉ x.late) := by
  intro k fresh
  have hk : k.Spared := played_spared w settings topology true
  obtain ⟨before, after, rfl, hbefore, hended, hcontext⟩ :=
    serveAll_terminates (played_staffed w settings topology true)
      (Ready.fresh world identity ownIdentity) (by nofun) hterm
  let ended := ((k.serveAll (before ++ [.transition .terminate])).run fresh).state
  obtain ⟨early, hearly, -⟩ := serveAll_tended hk (before ++ [.transition .terminate]) fresh
  obtain ⟨late, hlate, hclose⟩ := serveAll_tended hk after ended
  have hrest : ((k.serveAll after).run ended).state =
      ((k.serveAll (before ++ .transition .terminate :: after)).run fresh).state := by
    rw [← (serveAll_append _ after fresh).1, List.append_assoc]
    rfl
  rw [hrest] at hlate
  have hall : AllClosed ended.contextsBuilt early := hearly.allClosed hw rfl rfl hcontext
  exact ⟨⟨before, after, early, late, rfl, hbefore, ended, rfl, hended, hearly, hlate⟩, hall,
    hclose hended, hearly.allClosed_append_iff (by rintro _ ⟨⟩) hall hlate (hclose hended)⟩

end Cluster

/-- A world whose contexts can be closed, but for the first time that this is tried. -/
def World.reluctant : World Nat :=
  { World.adverse with
    buildContext := fun n => (⟨"closable", .ok ⟨false, true⟩⟩, n + 1)
    closeContext := fun _ n => (if n ≤ 1 then .error .unknownHome else .ok (), n + 1) }

theorem World.reluctant_buildsClosable : World.reluctant.BuildsClosable := by
  rintro _ _ ⟨⟩
  rfl

namespace Cluster

/-- A cluster in a world of reluctant contexts. -/
def reluctant : Cluster Nat := played World.reluctant .twoWorkers ⟨["a"], ["b"], "a", [], []⟩ true

/-- What a cluster has become after some requests, in a session of its own. -/
def reluctantRun (rs : List Request) : Ran (Session Nat) (List (Except Failure Unit)) :=
  (reluctant.serveAll rs).run (Session.fresh 0 (.pinned [some "a"]) none)

theorem reluctantRun_terminated :
    (reluctantRun [.context, .transition .terminate, .transition .terminate]).state.lifecycle.phase =
      .terminated := by
  decide +kernel

/-- A context is built, and the cluster is terminated at the second attempt. -/
theorem terminated_allClosed_reluctant :
    let rs : List Request := [.context, .transition .terminate, .transition .terminate]
    World.reluctant.BuildsClosable ∧ (reluctantRun rs).state.lifecycle.phase = .terminated ∧
      ∃ x : reluctant.Termination (Session.fresh 0 (.pinned [some "a"]) none) rs,
        AllClosed x.ended.contextsBuilt x.early ∧
        (∀ n outcome, .close n outcome ∉ x.late) ∧
        (AllClosed (reluctantRun rs).state.contextsBuilt (x.early ++ x.late) ↔
          ∀ shape, .build (.ok shape) ∉ x.late) :=
  ⟨World.reluctant_buildsClosable, reluctantRun_terminated,
    terminated_allClosed_iff World.reluctant _ _ _ _ _ World.reluctant_buildsClosable _
      reluctantRun_terminated⟩

/-- A context that is asked for once the cluster is terminated is built, and is never
closed, whatever is asked of the cluster then. -/
theorem context_outlives_termination :
    let r := reluctantRun [.context, .transition .terminate, .transition .terminate, .context]
    r.state.lifecycle.phase = .terminated ∧ r.state.contextsBuilt = 2 ∧
      r.state.context = some ⟨2, ⟨false, true⟩⟩ ∧
      ∀ more, (r.events ++ ((reluctant.serveAll more).run r.state).events).filterMap
        Event.closedContext? = [1, 1] := by
  intro r
  have hterm : r.state.lifecycle.phase = .terminated := by decide +kernel
  have hclosed : r.events.filterMap Event.closedContext? = [1, 1] := by decide +kernel
  refine ⟨hterm, by decide +kernel, by decide +kernel, fun more => ?_⟩
  have hspared : reluctant.Spared := played_spared _ _ _ _
  obtain ⟨steps, htended, hclose⟩ := serveAll_tended hspared more r.state
  have hnone : ((reluctant.serveAll more).run r.state).events.filterMap Event.closedContext? = [] :=
    List.filterMap_eq_nil_iff.mpr fun e he => by
      rcases hn : e.closedContext? with _ | n
      · rfl
      · obtain ⟨outcome, hstep⟩ := htended.close_of_event he hn
        exact absurd hstep (hclose hterm n outcome)
  rw [List.filterMap_append, hclosed, hnone]
  rfl

end Cluster

end ServerFleet
