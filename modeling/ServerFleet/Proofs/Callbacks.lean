import Mathlib.Data.List.Forall2
import ServerFleet.Proofs.Calls
import ServerFleet.Proofs.Handle
import ServerFleet.Proofs.Tellings

/-!
# What callbacks are told in a run

A `Chronicle` is what happened in a run, as registrations of callbacks and changes of the phase
in their order. The calls of callbacks in a run are those that its chronicle says
(`Chronicle.delivered`).

* `Instruction.each_act_run`: the runs of changes and registrations by themselves;
* `Cluster.serveAll_chronicle`: the runs of a cluster;
* `callbacks_delivered`: what callbacks are told in all of them.
-/

namespace ServerFleet

open Act (Keeps)

variable {σ α β : Type}

/-! ## Runs -/

/-- A run from one session to another, with its events, in which there happens what is said, in
order, and nothing else. What is registered while the phase changes comes after the change. -/
inductive Chronicle (w : World σ) (reenter : Transition → Act (Session σ) Unit) :
    Session σ → List Happening → List Event → Session σ → Prop
  | nil (s : Session σ) : Chronicle w reenter s [] [] s
  /-- Callbacks are registered, if any, and the phase stays. -/
  | aside {s t u : Session σ} {cs : List Callback} {hs : List Happening} {es es' : List Event}
      (phase : t.lifecycle.phase = s.lifecycle.phase)
      (callbacks : t.lifecycle.callbacks = s.lifecycle.callbacks ++ cs)
      (silent : es.filterMap Event.telling? = [])
      (rest : Chronicle w reenter t hs es' u) :
      Chronicle w reenter s (cs.map .registered ++ hs) (es ++ es') u
  | changed {s t u : Session σ} {x : Change} {cs : List Callback} {hs : List Happening}
      {es es' : List Event}
      (run : (Session.setPhase w reenter x.phase x.transition).run s = ⟨.ok (), t, es⟩)
      (callbacks : t.lifecycle.callbacks = s.lifecycle.callbacks ++ cs)
      (rest : Chronicle w reenter t hs es' u) :
      Chronicle w reenter s (.changed x :: (cs.map .registered ++ hs)) (es ++ es') u

/-- What callbacks have come to, and what they were told, by what happened since a session. -/
structure Delivered (s : Session σ) (hs : List Happening) (es : List Event) (t : Session σ) :
    Prop where
  callbacks : t.lifecycle.callbacks =
    s.lifecycle.callbacks ++ registrations hs
  phase : t.lifecycle.phase =
    ((changes hs).getLast?.map Change.phase).getD s.lifecycle.phase
  /-- The calls of callbacks, in order. -/
  calls : es.filterMap Event.telling? = (tellings s.lifecycle.callbacks hs).flatten
  /-- Those of one callback are the changes after its registration. -/
  own : ∀ before c after, hs = before ++ .registered c :: after → c ∉ s.lifecycle.callbacks →
    c ∉ registrations before → c ∉ registrations after →
    (es.filterMap Event.telling?).filter (·.callback = c) = (changes after).map (·.told c)
  /-- So are those by any one registration of a callback that is registered many times. -/
  log : ∀ before c after, hs = before ++ .registered c :: after →
    (tellings s.lifecycle.callbacks hs).filterMap
        (·[s.lifecycle.callbacks.length + (registrations before).length]?) =
      (changes after).map (·.told c)

namespace Chronicle

variable {w : World σ} {reenter : Transition → Act (Session σ) Unit} {s t u : Session σ}
  {xs ys : List Happening} {es es' : List Event}

theorem append (h : Chronicle w reenter s xs es t) (h' : Chronicle w reenter t ys es' u) :
    Chronicle w reenter s (xs ++ ys) (es ++ es') u := by
  induction h with
  | nil => exact h'
  | aside phase callbacks silent _ ih =>
    rw [List.append_assoc, List.append_assoc]
    exact aside phase callbacks silent (ih h')
  | changed run callbacks _ ih =>
    rw [List.cons_append, List.append_assoc, List.append_assoc]
    exact changed run callbacks (ih h')

theorem of_adds (h : Adds s es t) :
    ∃ cs : List Callback, Chronicle w reenter s (cs.map .registered) es t := by
  obtain ⟨cs, hcs⟩ := h.callbacks
  exact ⟨cs, by simpa using aside h.phase hcs.symm h.silent (nil t)⟩

/-- Where nothing happens. -/
theorem still (phase : t.lifecycle.phase = s.lifecycle.phase)
    (callbacks : t.lifecycle.callbacks = s.lifecycle.callbacks)
    (silent : es.filterMap Event.telling? = []) : Chronicle w reenter s [] es t := by
  have hnone : t.lifecycle.callbacks = s.lifecycle.callbacks ++ [] := by
    rw [callbacks, List.append_nil]
  simpa using aside phase hnone silent (nil t)

/-- To claim a session and to release it is nothing to callbacks. -/
theorem of_claimed {transition : String} (h : Chronicle w reenter (s.claimed transition) xs es t) :
    Chronicle w reenter s xs es t.released := by
  have hclaim : Chronicle w reenter s [] [] (s.claimed transition) := still rfl rfl rfl
  have hrelease : Chronicle w reenter t [] [] t.released := still rfl rfl rfl
  simpa using hclaim.append (h.append hrelease)

theorem callbacks_eq (h : Chronicle w reenter s xs es t) :
    t.lifecycle.callbacks = s.lifecycle.callbacks ++ registrations xs := by
  induction h with
  | nil => simp [registrations]
  | aside _ callbacks _ _ ih => simp [ih, callbacks]
  | changed _ callbacks _ ih => simp [registrations, ih, callbacks]

variable (hr : ∀ t, Registers (reenter t))

include hr

theorem phase_eq (h : Chronicle w reenter s xs es t) : t.lifecycle.phase =
    ((changes xs).getLast?.map Change.phase).getD s.lifecycle.phase := by
  induction h with
  | nil => rfl
  | aside phase _ _ _ ih => simp [ih, phase]
  | @changed s t u x cs hs es es' run _ _ ih =>
    have hphase := (Session.setPhase_announced w hr x s).phase
    rw [run] at hphase
    rw [ih, hphase, changes, changes_append, changes_registered, List.nil_append,
      List.getLast?_cons]
    cases (changes hs).getLast? <;> rfl

theorem calls_eq (h : Chronicle w reenter s xs es t) :
    es.filterMap Event.telling? = (tellings s.lifecycle.callbacks xs).flatten := by
  induction h with
  | nil => rfl
  | aside _ callbacks silent _ ih => simp [tellings_append, silent, ih, callbacks]
  | @changed s t u x cs hs es es' run callbacks _ ih =>
    have htold := (Session.setPhase_announced w hr x s).tellings
    rw [run] at htold
    simp [tellings, tellings_append, htold, ih, callbacks]

/-- Whatever happens in a run, it is delivered. -/
theorem delivered (h : Chronicle w reenter s xs es t) : Delivered s xs es t where
  callbacks := h.callbacks_eq
  phase := h.phase_eq hr
  calls := h.calls_eq hr
  own before c after hxs hcs hbefore hafter := by
    rw [h.calls_eq hr, hxs]
    exact filter_tellings_once hcs hbefore hafter
  log before c after hxs := by
    rw [hxs]
    exact log_eq ..

end Chronicle

/-! ## Changes and registrations by themselves -/

/-- What a lifecycle may be told directly. -/
inductive Instruction where
  | change (x : Change)
  | register (c : Callback)

namespace Instruction

/-- Carries out an instruction. -/
def act (w : World σ) (reenter : Transition → Act (Session σ) Unit) :
    Instruction → Act (Session σ) Unit
  | change x => Session.setPhase w reenter x.phase x.transition
  | register c => Session.modifyLifecycle (·.register c)

/-- What happens by an instruction: callbacks may register more of them while the phase
changes. -/
def Yields : Instruction → List Happening → Prop
  | change x, hs => ∃ cs : List Callback, hs = .changed x :: cs.map .registered
  | register c, hs => hs = [.registered c]

variable {w : World σ} {reenter : Transition → Act (Session σ) Unit}

/-- An instruction does not fail. -/
theorem act_run (hr : ∀ t, Registers (reenter t)) (i : Instruction) (s : Session σ) :
    ∃ hs t es, (i.act w reenter).run s = ⟨.ok (), t, es⟩ ∧ i.Yields hs ∧
      Chronicle w reenter s hs es t := by
  cases i with
  | change x =>
    have hannounced := Session.setPhase_announced w hr x s
    obtain ⟨cs, hcs⟩ := hannounced.callbacks
    have hresult := hannounced.result
    generalize hrun : (Session.setPhase w reenter x.phase x.transition).run s = r at hcs hresult
    obtain ⟨_, t, es⟩ := r
    cases hresult
    refine ⟨_, t, es, hrun, ⟨cs, rfl⟩, ?_⟩
    simpa using Chronicle.changed hrun hcs.symm (.nil t)
  | register c =>
    let t : Session σ := { s with lifecycle := s.lifecycle.register c }
    have hadded : Chronicle w reenter s ([c].map .registered ++ []) ([] ++ []) t :=
      .aside (t := t) rfl rfl rfl (.nil t)
    exact ⟨[.registered c], t, [], rfl, rfl, hadded⟩

theorem each_act_run (hr : ∀ t, Registers (reenter t)) (is : List Instruction) (s : Session σ) :
    ∃ us parts t es, (Act.each (act w reenter) is).run s = ⟨.ok us, t, es⟩ ∧
      List.Forall₂ Yields is parts ∧ Chronicle w reenter s parts.flatten es t := by
  induction is generalizing s with
  | nil => exact ⟨[], [], s, [], rfl, .nil, .nil s⟩
  | cons i is ih =>
    obtain ⟨hs, m, es, hrun, hyields, hchronicle⟩ := act_run (w := w) hr i s
    obtain ⟨us, parts, t, es', hrest, hparts, hchronicle'⟩ := ih m
    exact ⟨() :: us, hs :: parts, t, es ++ es', Act.run_each_cons hrun hrest,
      .cons hyields hparts, hchronicle.append hchronicle'⟩

end Instruction

/-! ## Transitions -/

/-- What happens in every run of an action: its changes are as `P` says if it gives a result, and
as `Q` says if it fails. -/
def Chronicled (w : World σ) (a : Act (Session σ) α) (P Q : List Change → Prop) : Prop :=
  ∀ s, ∃ hs, Chronicle w Cluster.refuse s hs (a.run s).events (a.run s).state ∧
    match (a.run s).result with
    | .ok _ => P (changes hs)
    | .error _ => Q (changes hs)

variable {w : World σ} {P Q R S T : List Change → Prop}

theorem Registers.chronicled {a : Act (Session σ) α} (h : Registers a) (w : World σ) :
    Chronicled w a (· = []) (· = []) := by
  intro s
  obtain ⟨cs, hchronicle⟩ : ∃ cs : List Callback, Chronicle w Cluster.refuse s
      (cs.map .registered) (a.run s).events (a.run s).state := Chronicle.of_adds (h.adds s)
  refine ⟨_, hchronicle, ?_⟩
  cases (a.run s).result <;> exact changes_registered cs

theorem Session.setPhase_chronicled (w : World σ) (x : Change) :
    Chronicled w (Session.setPhase w Cluster.refuse x.phase x.transition) (· = [x])
      (fun _ => False) := by
  intro s
  obtain ⟨hs, t, es, hrun, ⟨cs, rfl⟩, hchronicle⟩ :=
    (Instruction.change x).act_run (w := w) Cluster.refuse_registers s
  rw [show (Session.setPhase w Cluster.refuse x.phase x.transition).run s = _ from hrun]
  exact ⟨_, hchronicle, congrArg (x :: ·) (changes_registered cs)⟩

theorem Chronicled.bind {a : Act (Session σ) α} {f : α → Act (Session σ) β}
    (h : Chronicled w a P Q) (hf : ∀ x, Chronicled w (f x) R S)
    (hok : ∀ xs ys, P xs → R ys → T (xs ++ ys)) {U : List Change → Prop}
    (hlate : ∀ xs ys, P xs → S ys → U (xs ++ ys)) (hearly : ∀ xs, Q xs → U xs) :
    Chronicled w (a >>= f) T U := by
  intro s
  obtain ⟨xs, hchronicle, hend⟩ := h s
  rw [Act.run_bind]
  generalize a.run s = r at hchronicle hend
  obtain ⟨_ | x, t, es⟩ := r
  · exact ⟨xs, hchronicle, hearly _ hend⟩
  · obtain ⟨ys, hchronicle', hend'⟩ := hf x t
    refine ⟨xs ++ ys, hchronicle.append hchronicle', ?_⟩
    simp only [Act.after, changes_append]
    generalize ((f x).run t).result = res at hend'
    cases res with
    | ok y => exact hok _ _ hend hend'
    | error e => exact hlate _ _ hend hend'

theorem Chronicled.imp {a : Act (Session σ) α} (h : Chronicled w a P Q) (hP : ∀ xs, P xs → R xs)
    (hQ : ∀ xs, Q xs → S xs) : Chronicled w a R S := by
  intro s
  obtain ⟨hs, hchronicle, hend⟩ := h s
  refine ⟨hs, hchronicle, ?_⟩
  generalize (a.run s).result = res at hend
  cases res with
  | ok x => exact hP _ hend
  | error e => exact hQ _ hend

/-- An action that only registers callbacks, before others. -/
theorem Registers.before {a : Act (Session σ) α} {f : α → Act (Session σ) β} (h : Registers a)
    (hf : ∀ x, Chronicled w (f x) P (· = [])) : Chronicled w (a >>= f) P (· = []) := by
  refine (h.chronicled w).bind hf (fun xs ys hx hy => ?_) (fun xs ys hx hy => ?_) fun _ h => h
  · rw [hx]
    exact hy
  · rw [hx, hy, List.nil_append]

theorem chronicled_pure (x : α) :
    Chronicled w (pure x : Act (Session σ) α) (· = []) (fun _ => False) :=
  fun s => ⟨[], .nil s, rfl⟩

/-- A change of the phase that an action ends with. -/
theorem Session.setPhase_last (w : World σ) (x : Change) (y : β) :
    Chronicled w (do
      setPhase w Cluster.refuse x.phase x.transition
      return y) (· = [x]) (· = []) := by
  refine (setPhase_chronicled w x).bind (fun _ => chronicled_pure y) (fun xs ys hx hy => ?_)
    (fun _ _ _ hy => hy.elim) fun _ h => h.elim
  rw [hx, hy, List.append_nil]

namespace Transition

/-- The changes that a transition makes if it gives a result: a termination stops the fleet
before, if that is started. -/
def Completes (t : Transition) (xs : List Change) : Prop :=
  xs = [⟨t.goal, t.name⟩] ∨
    t = .terminate ∧ xs = [⟨.stopped, t.name⟩, ⟨.terminated, t.name⟩]

/-- The changes that it makes if it fails. -/
def Breaks (t : Transition) (xs : List Change) : Prop :=
  xs = [] ∨ t = .terminate ∧ xs = [⟨.stopped, t.name⟩]

end Transition

namespace Cluster

/-- While transitions are refused, the collaborators register callbacks at most. -/
def Discreet (k : Cluster σ) : Prop :=
  ∀ phase callbacks, (k.staff refuse).Agree (Having phase callbacks)
    (fun e => e.telling? = none) (k.staff refuse)

theorem played_discreet (w : World σ) (settings : Settings) (topology : Topology)
    (hasFactory : Bool) : (played w settings topology hasFactory).Discreet := by
  have hcall (c : ControlCall) : Registers (Session.call w refuse c) :=
    (registers_record rfl).bind fun _ => registers_get.bind fun s =>
      Session.react_registers refuse_registers (w.control c s.world)
  exact fun phase callbacks => ⟨fun _ _ _ => hcall _ phase callbacks,
    fun _ _ => hcall _ phase callbacks, fun _ => hcall _ phase callbacks,
    fun _ => hcall _ phase callbacks, fun _ => hcall _ phase callbacks⟩

theorem having_admits (phase : Phase) (callbacks : List Callback) :
    Admits (Having phase callbacks : Session σ → Prop) (fun e => e.telling? = none) :=
  ⟨fun _ _ _ h => h, fun _ _ => rfl, fun _ => rfl⟩

variable {k : Cluster σ} (hk : k.Discreet)

include hk

theorem stopAll_registers : Registers (Sequence.stopAll (k.crew refuse)) :=
  fun phase callbacks =>
    Sequence.stopAll_agree (having_admits phase callbacks) (hk phase callbacks)

theorem start_registers : Registers (do
    let _ ← Sequence.setGoal (k.crew refuse) Sequence.normalGoal
    Sequence.startAll (k.crew refuse)) :=
  fun phase callbacks =>
    (Sequence.setGoal_agree (having_admits phase callbacks) (hk phase callbacks) _).bind
      fun _ => Sequence.startAll_agree (having_admits phase callbacks) (hk phase callbacks)

/-- A fleet that is started is stopped before a termination. -/
theorem haltFirst_chronicled : Chronicled k.world k.haltFirst
    (fun xs => xs = [] ∨ xs = [⟨.stopped, Transition.terminate.name⟩]) (· = []) := by
  refine registers_get.before fun s => ?_
  by_cases hs : s.lifecycle.phase = .started
  · rw [if_pos hs]
    exact (stopAll_registers hk).before fun _ =>
      (Session.setPhase_chronicled k.world ⟨.stopped, Transition.terminate.name⟩).imp
        (fun _ => .inr) fun _ h => h.elim
  · rw [if_neg hs]
    exact (chronicled_pure ()).imp (fun _ => .inl) fun _ h => h.elim

omit hk in
theorem closeDown_chronicled : Chronicled k.world k.closeDown
    (· = [⟨.terminated, Transition.terminate.name⟩]) (· = []) := by
  have hrelease : Registers k.releaseContext := fun _ _ =>
    releaseContext_keeps (fun _ _ h => h) (fun _ h => h) (fun _ _ => rfl) fun _ => rfl
  have hclose : Registers (Dispatch.close : Act (Session σ) Unit) := registers_still fun _ => rfl
  exact hrelease.before fun _ => hclose.before fun _ =>
    Session.setPhase_last k.world ⟨.terminated, Transition.terminate.name⟩ none

/-- The changes that a transition makes once it is claimed. -/
theorem body_chronicled (t : Transition) :
    Chronicled k.world (k.body t) t.Completes t.Breaks := by
  cases t with
  | start =>
    rw [body_start]
    exact ((start_registers hk).before fun report =>
      Session.setPhase_last k.world ⟨.started, Transition.start.name⟩ (some report)).imp
        (fun _ => .inl) fun _ => .inl
  | stop =>
    rw [body_stop]
    exact ((stopAll_registers hk).before fun report =>
      Session.setPhase_last k.world ⟨.stopped, Transition.stop.name⟩ (some report)).imp
        (fun _ => .inl) fun _ => .inl
  | terminate =>
    rw [body_terminate]
    refine (haltFirst_chronicled hk).bind (fun _ => closeDown_chronicled) ?_ ?_ fun _ => .inl
    · rintro _ _ (rfl | rfl) rfl
      · exact .inl rfl
      · exact .inr ⟨rfl, rfl⟩
    · rintro _ _ (rfl | rfl) rfl
      · exact .inl rfl
      · exact .inr ⟨rfl, rfl⟩

/-- A transition that is refused changes nothing. -/
theorem perform_chronicled (t : Transition) :
    Chronicled k.world (k.perform t) t.Completes t.Breaks := by
  intro s
  by_cases hs : s.Idle
  · obtain ⟨xs, hchronicle, hend⟩ := body_chronicled hk t (s.claimed t.name)
    rw [perform, Session.during_run hs]
    exact ⟨xs, hchronicle.of_claimed, hend⟩
  · obtain ⟨refusal, -, hrun⟩ := Session.during_refused hs t.name (k.body t)
    rw [perform, hrun]
    exact ⟨[], .nil s, .inl rfl⟩

end Cluster

/-! ## Runs of a cluster -/

/-- What happens by a request, by its outcome. -/
def Request.Yields : Request → Except Failure Unit → List Happening → Prop
  | .transition t, .ok _, hs => t.Completes (changes hs)
  | .transition t, .error _, hs => t.Breaks (changes hs)
  | .context, _, hs => hs = []
  | .register c, outcome, hs => outcome = .ok () ∧ hs = [.registered c]

/-- A request that was served. -/
structure Turn where
  request : Request
  outcome : Except Failure Unit
  happenings : List Happening
  yields : request.Yields outcome happenings

namespace Cluster

variable {k : Cluster σ}

theorem serve_chronicle (hk : k.Discreet) (r : Request) (s : Session σ) : ∃ turn : Turn,
    turn.request = r ∧ turn.outcome = ((k.serve r).run s).result ∧
      Chronicle k.world refuse s turn.happenings ((k.serve r).run s).events
        ((k.serve r).run s).state := by
  cases r with
  | transition t =>
    obtain ⟨hs, hchronicle, hend⟩ := perform_chronicled hk t s
    rw [serve, interrupt_run]
    refine ⟨⟨.transition t, _, hs, ?_⟩, rfl, rfl, hchronicle⟩
    generalize ((k.perform t).run s).result = res at hend
    cases res <;> exact hend
  | context =>
    have hkeeps : Keeps (fun t => t.lifecycle = s.lifecycle) (fun e => e.telling? = none)
        (k.serve .context) :=
      (serverContext_keeps (fun _ _ h => h) (fun _ _ _ h => h) fun _ => rfl).bind
        fun _ => Act.keeps_pure ()
    obtain ⟨-, hsame, hevents⟩ := hkeeps s rfl
    exact ⟨⟨.context, _, [], rfl⟩, rfl, rfl, .still (congrArg Lifecycle.phase hsame)
      (congrArg Lifecycle.callbacks hsame) (List.filterMap_eq_nil_iff.mpr hevents)⟩
  | register c =>
    obtain ⟨hs, t, es, hrun, hyields, hchronicle⟩ :=
      (Instruction.register c).act_run (w := k.world) refuse_registers s
    rw [show (k.serve (.register c)).run s = _ from hrun]
    exact ⟨⟨.register c, .ok (), hs, rfl, hyields⟩, rfl, rfl, hchronicle⟩

/-- Requests never keep those after them from being served. -/
theorem serveAll_chronicle (hk : k.Discreet) (rs : List Request) (s : Session σ) :
    ∃ turns : List Turn, turns.map Turn.request = rs ∧
      ((k.serveAll rs).run s).result = .ok (turns.map Turn.outcome) ∧
      Chronicle k.world refuse s (turns.flatMap Turn.happenings) ((k.serveAll rs).run s).events
        ((k.serveAll rs).run s).state := by
  induction rs generalizing s with
  | nil => exact ⟨[], rfl, rfl, .nil s⟩
  | cons r rs ih =>
    obtain ⟨turn, hrequest, houtcome, hchronicle⟩ := serve_chronicle hk r s
    obtain ⟨turns, hrequests, hresult, hchronicle'⟩ := ih ((k.serve r).run s).state
    obtain ⟨hstate, hevents⟩ := serveAll_cons (k := k) r rs s
    rw [hstate, hevents]
    refine ⟨turn :: turns, by rw [List.map_cons, hrequest, hrequests], ?_,
      hchronicle.append hchronicle'⟩
    rw [serveAll_cons_result, hresult, ← houtcome]
    rfl

end Cluster

/-- Callbacks may do anything that they can: fail, register further callbacks, or ask for
transitions, as long as these tell no callbacks and change no phase themselves. Collaborators
may do the same.

* A change of the phase never fails. Every callback that was registered when it began is told
  of it once, in the order of registration, and sees the new phase (`Announced`).
* In every run of changes and registrations, none fails, and nothing happens but them and the
  registrations that callbacks make, which count as made after the change (`Yields`). The calls
  of callbacks are those of the changes in turn, and each callback is told of just the changes
  after its registration (`Delivered`).
* So it is in every run of a cluster, where each request makes its changes by its outcome.
  There, to carry out a transition that is asked for on the way comes to refusing it. -/
theorem callbacks_delivered (w : World σ) :
    (∀ reenter : Transition → Act (Session σ) Unit, (∀ t, Registers (reenter t)) →
      (∀ x s, Announced x s ((Session.setPhase w reenter x.phase x.transition).run s)) ∧
      ∀ is s,
        let r := (Act.each (Instruction.act w reenter) is).run s
        ∃ us parts, r.result = .ok us ∧ List.Forall₂ Instruction.Yields is parts ∧
          Chronicle w reenter s parts.flatten r.events r.state ∧
          Delivered s parts.flatten r.events r.state) ∧
    ∀ settings topology hasFactory world identity ownIdentity rs,
      let k := Cluster.played w settings topology hasFactory
      let fresh := Session.fresh world identity ownIdentity
      let r := (k.serveAll rs).run fresh
      (∀ t, k.perform t = Session.during t.name (k.bodyWith k.interrupt t)) ∧
      ∃ turns : List Turn, turns.map Turn.request = rs ∧
        r.result = .ok (turns.map Turn.outcome) ∧
        Chronicle w Cluster.refuse fresh (turns.flatMap Turn.happenings) r.events r.state ∧
        Delivered fresh (turns.flatMap Turn.happenings) r.events r.state := by
  refine ⟨fun reenter hr => ⟨Session.setPhase_announced w hr, fun is s => ?_⟩, ?_⟩
  · obtain ⟨us, parts, t, es, hrun, hparts, hchronicle⟩ := Instruction.each_act_run (w := w) hr is s
    rw [hrun]
    exact ⟨us, parts, rfl, hparts, hchronicle, hchronicle.delivered hr⟩
  · intro settings topology hasFactory world identity ownIdentity rs k fresh r
    obtain ⟨turns, hrequests, hresult, hchronicle⟩ :=
      Cluster.serveAll_chronicle (Cluster.played_discreet w settings topology hasFactory) rs fresh
    exact ⟨(Cluster.perform_unique
      (Cluster.played_staffed w settings topology hasFactory) _).mpr rfl,
      turns, hrequests, hresult, hchronicle, hchronicle.delivered Cluster.refuse_registers⟩

/-- A world in which every callback registers another one, asks for a transition, and fails. -/
def World.meddling : World Nat :=
  { World.adverse with
    callback := fun c _ _ n => .register ⟨"late", c.key + 1⟩ <|
      .reenter .stop n fun _ n => .finish (.error .unknownHome) (n + 1) }

-- A callback that is registered while the fleet is started is told of the stop alone.
example :
    let k := Cluster.played World.meddling .twoWorkers ⟨["a"], ["b"], "a", [], []⟩ false
    let r := (k.serveAll [.register ⟨"first", 0⟩, .transition .start, .transition .stop]).run
      (Session.fresh 0 (.pinned [some "a"]) none)
    (r.events.filterMap Event.telling?).map (fun x => (x.callback, x.change.phase, x.seen)) =
      [(⟨"first", 0⟩, .started, .started), (⟨"first", 0⟩, .stopped, .stopped),
        (⟨"late", 1⟩, .stopped, .stopped)] := by
  decide +kernel

end ServerFleet
