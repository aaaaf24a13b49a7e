import ServerFleet.Proofs.Transitions

/-!
# Changes and callbacks

What callbacks are told when the phase changes. `tellings` says what they are to be told by
the registrations and changes that happen: every callback that was registered before a change
is told of it once, first registered first, and sees the phase that the cluster changed to.

* `filter_tellings_once`, `log_eq`: a callback is told of just the changes after its
  registration;
* `Registers`: the actions that register callbacks at most;
* `Session.setPhase_announced`: what a single change does. Whatever a callback does when it is
  told is no matter to the others: it may fail, register further callbacks, or ask for
  transitions that register callbacks at most.
-/

namespace ServerFleet

open Act (Keeps)

variable {σ α β : Type}

/-! ## Changes and registrations -/

/-- A change of the phase, with the name of the transition that makes it. -/
structure Change where
  phase : Phase
  transition : String

/-- A call of a callback, with the phase that the callback sees. -/
structure Telling where
  callback : Callback
  change : Change
  seen : Phase

/-- How a callback is told of a change: it sees the phase that was changed to. -/
def Change.told (x : Change) (c : Callback) : Telling := ⟨c, x, x.phase⟩

/-- The call of a callback that an event is. -/
def Event.telling? : Event → Option Telling
  | .callback c phase transition seen => some ⟨c, ⟨phase, transition⟩, seen⟩
  | _ => none

/-- Something that callbacks are about. -/
inductive Happening where
  | registered (callback : Callback)
  | changed (change : Change)

/-- The callbacks that are registered. -/
def registrations : List Happening → List Callback
  | [] => []
  | .registered c :: rest => c :: registrations rest
  | .changed _ :: rest => registrations rest

/-- The changes that are made. -/
def changes : List Happening → List Change
  | [] => []
  | .registered _ :: rest => changes rest
  | .changed x :: rest => x :: changes rest

@[simp] theorem registrations_append (xs ys : List Happening) :
    registrations (xs ++ ys) = registrations xs ++ registrations ys := by
  induction xs with
  | nil => rfl
  | cons x xs ih => cases x <;> simp [registrations, ih]

@[simp] theorem changes_append (xs ys : List Happening) :
    changes (xs ++ ys) = changes xs ++ changes ys := by
  induction xs with
  | nil => rfl
  | cons x xs ih => cases x <;> simp [changes, ih]

@[simp] theorem registrations_registered (cs : List Callback) :
    registrations (cs.map .registered) = cs := by
  induction cs with
  | nil => rfl
  | cons c cs ih => exact congrArg (c :: ·) ih

@[simp] theorem changes_registered (cs : List Callback) : changes (cs.map .registered) = [] := by
  induction cs with
  | nil => rfl
  | cons c cs ih => exact ih

/-- The calls of each change in turn, where `cs` are the callbacks at first: every callback that
was registered before the change is told of it, first registered first. -/
def tellings : List Callback → List Happening → List (List Telling)
  | _, [] => []
  | cs, .registered c :: rest => tellings (cs ++ [c]) rest
  | cs, .changed x :: rest => cs.map x.told :: tellings cs rest

theorem tellings_append (cs : List Callback) (xs ys : List Happening) :
    tellings cs (xs ++ ys) =
      tellings cs xs ++ tellings (cs ++ registrations xs) ys := by
  induction xs generalizing cs with
  | nil => simp [tellings, registrations]
  | cons x xs ih => cases x <;> simp [tellings, registrations, ih]

@[simp] theorem tellings_registered (cs ds : List Callback) :
    tellings cs (ds.map Happening.registered) = [] := by
  induction ds generalizing cs with
  | nil => rfl
  | cons d ds ih => exact ih (cs ++ [d])

/-- A callback that is there already is told of all changes. -/
theorem log_of_registered {cs : List Callback} {i : Nat} {c : Callback} (hc : cs[i]? = some c)
    (hs : List Happening) : (tellings cs hs).filterMap (·[i]?) =
      (changes hs).map (·.told c) := by
  induction hs generalizing cs with
  | nil => rfl
  | cons x hs ih =>
    cases x with
    | registered d =>
      have hi : i < cs.length := (List.getElem?_eq_some_iff.mp hc).1
      exact ih ((List.getElem?_append_left hi).trans hc)
    | changed x => simp [tellings, changes, List.getElem?_map, hc, ih hc]

/-- A callback is told of nothing before it is registered. -/
theorem log_of_unregistered {cs : List Callback} {i : Nat} {hs : List Happening}
    (hi : cs.length + (registrations hs).length ≤ i) :
    (tellings cs hs).filterMap (·[i]?) = [] := by
  induction hs generalizing cs with
  | nil => rfl
  | cons x hs ih =>
    cases x with
    | registered d =>
      refine ih ?_
      simp only [registrations, List.length_cons] at hi
      simp only [List.length_append, List.length_singleton]
      omega
    | changed x =>
      have hnone : (cs.map x.told)[i]? = none :=
        List.getElem?_eq_none (by rw [List.length_map]; omega)
      rw [tellings, List.filterMap_cons, hnone]
      exact ih hi

/-- The calls of a callback are those of the changes after its registration. -/
theorem log_eq (cs : List Callback) (before after : List Happening) (c : Callback) :
    (tellings cs (before ++ .registered c :: after)).filterMap
        (·[cs.length + (registrations before).length]?) =
      (changes after).map (·.told c) := by
  have hc : (cs ++ registrations before ++ [c])[cs.length +
      (registrations before).length]? = some c := by
    rw [← List.length_append, List.getElem?_concat_length]
  rw [tellings_append, List.filterMap_append, log_of_unregistered (Nat.le_refl _),
    List.nil_append, tellings, log_of_registered hc]

/-- The calls of a callback that is not registered again: one for each change and each time
that it was registered before. -/
theorem filter_tellings {c : Callback} {hs : List Happening} (hc : c ∉ registrations hs)
    (cs : List Callback) : (tellings cs hs).flatten.filter (·.callback = c) =
      (changes hs).flatMap fun x => List.replicate (cs.count c) (x.told c) := by
  induction hs generalizing cs with
  | nil => rfl
  | cons x hs ih =>
    cases x with
    | registered d =>
      obtain ⟨hne, hrest⟩ := not_or.mp (mt List.mem_cons.mpr hc)
      rw [tellings, ih hrest, List.count_append, List.count_singleton,
        if_neg (by simpa using Ne.symm hne), Nat.add_zero]
      rfl
    | changed x =>
      have hown : (cs.map x.told).filter (·.callback = c) =
          List.replicate (cs.count c) (x.told c) := by
        rw [List.filter_map, ← List.map_replicate, ← List.filter_eq]
        rfl
      rw [tellings, List.flatten_cons, List.filter_append, hown, ih hc, changes, List.flatMap_cons]

/-- A callback that is registered once is told of just the changes after that. -/
theorem filter_tellings_once {cs : List Callback} {before after : List Happening} {c : Callback}
    (hcs : c ∉ cs) (hbefore : c ∉ registrations before) (hafter : c ∉ registrations after) :
    (tellings cs (before ++ .registered c :: after)).flatten.filter (·.callback = c) =
      (changes after).map (·.told c) := by
  have hcount : (cs ++ registrations before ++ [c]).count c = 1 := by
    simp [List.count_eq_zero_of_not_mem, hcs, hbefore]
  have hnone : (changes before).flatMap (fun x => List.replicate 0 (x.told c)) = [] :=
    List.flatMap_eq_nil_iff.mpr fun _ _ => rfl
  rw [tellings_append, List.flatten_append, List.filter_append, filter_tellings hbefore,
    List.count_eq_zero_of_not_mem hcs, hnone, tellings, filter_tellings hafter, hcount,
    List.nil_append, List.map_eq_flatMap]
  rfl

/-! ## A single change -/

/-- The sessions in a phase that have at least some callbacks. -/
def Having (phase : Phase) (callbacks : List Callback) (s : Session σ) : Prop :=
  s.lifecycle.phase = phase ∧ callbacks <+: s.lifecycle.callbacks

/-- An action that tells no callbacks, and leaves the phase and the callbacks as they are except
that it may register more of them. -/
def Registers (a : Act (Session σ) α) : Prop :=
  ∀ phase callbacks, Keeps (Having phase callbacks) (fun e => e.telling? = none) a

theorem registers_ofExcept (r : Except Failure α) :
    Registers (Act.ofExcept r : Act (Session σ) α) := fun _ _ => Act.keeps_ofExcept r

theorem registers_get : Registers (Act.get : Act (Session σ) (Session σ)) :=
  fun _ _ => Act.keeps_get

theorem registers_record {e : Event} (h : e.telling? = none) :
    Registers (Act.record e : Act (Session σ) Unit) := fun _ _ => Act.keeps_record h

theorem registers_modify {f : Session σ → Session σ}
    (hphase : ∀ s, (f s).lifecycle.phase = s.lifecycle.phase)
    (hcallbacks : ∀ s, s.lifecycle.callbacks <+: (f s).lifecycle.callbacks) :
    Registers (Act.modify f) := fun _ _ =>
  Act.keeps_modify fun s h => ⟨(hphase s).trans h.1, h.2.trans (hcallbacks s)⟩

/-- What leaves the lifecycle alone registers nothing. -/
theorem registers_still {f : Session σ → Session σ} (h : ∀ s, (f s).lifecycle = s.lifecycle) :
    Registers (Act.modify f) := by
  refine registers_modify (fun s => congrArg Lifecycle.phase (h s)) fun s => ?_
  have hsame : (f s).lifecycle.callbacks = s.lifecycle.callbacks :=
    congrArg Lifecycle.callbacks (h s)
  exact hsame ▸ List.prefix_refl _

theorem Registers.bind {a : Act (Session σ) α} {f : α → Act (Session σ) β} (h : Registers a)
    (hf : ∀ x, Registers (f x)) : Registers (a >>= f) :=
  fun phase callbacks => (h phase callbacks).bind fun x => hf x phase callbacks

theorem Registers.attempt_map {a : Act (Session σ) α} (h : Registers a)
    (f : Except Failure α → β) : Registers (f <$> a.attempt) :=
  fun phase callbacks => (h phase callbacks).attempt.map f

theorem Cluster.refuse_registers (t : Transition) :
    Registers (Cluster.refuse t : Act (Session σ) Unit) := by
  refine fun phase callbacks => Act.keeps_consult fun s hs => ?_
  rcases hclaim : s.lifecycle.claim t.name with refusal | lifecycle
  · exact hs
  · obtain ⟨-, -, rfl⟩ := Lifecycle.claim_eq_ok_iff.mp hclaim
    exact hs

/-- What such an action does in a session. -/
structure Adds (s : Session σ) (es : List Event) (t : Session σ) : Prop where
  phase : t.lifecycle.phase = s.lifecycle.phase
  callbacks : s.lifecycle.callbacks <+: t.lifecycle.callbacks
  silent : es.filterMap Event.telling? = []

theorem Registers.adds {a : Act (Session σ) α} (h : Registers a) (s : Session σ) :
    Adds s (a.run s).events (a.run s).state := by
  obtain ⟨-, ⟨hphase, hcallbacks⟩, hevents⟩ :=
    h s.lifecycle.phase s.lifecycle.callbacks s ⟨rfl, List.prefix_refl _⟩
  exact ⟨hphase, hcallbacks, List.filterMap_eq_nil_iff.mpr hevents⟩

namespace Session

variable {w : World σ} {reenter : Transition → Act (Session σ) Unit}
  (hr : ∀ t, Registers (reenter t))

/-- A callback is called once, and sees the phase that the session is in. If it fails, that is
logged, and nothing else comes of it. -/
theorem tell_run (x : Change) (c : Callback) (s : Session σ) :
    let r := (react reenter (w.callback c x.phase x.transition s.world)).run s
    ∃ logged, logged.filterMap Event.telling? = [] ∧
      (tell w reenter x.phase x.transition c).run s = ⟨.ok (), r.state,
        .callback c x.phase x.transition s.lifecycle.phase :: r.events ++ logged⟩ := by
  intro r
  have hcalled : (Act.attempt (react reenter (w.callback c x.phase x.transition s.world))).run s =
      ⟨.ok r.result, r.state, r.events⟩ := Act.run_attempt ..
  rw [tell, Act.run_bind_of_ok (Act.run_get s), Act.run_bind_of_ok (Act.run_record _ s),
    Act.run_bind_of_ok hcalled]
  rcases r.result with e | _
  · exact ⟨[.log .error _], rfl, rfl⟩
  · exact ⟨[], rfl, rfl⟩

include hr

/-- Whatever is answered to a call, it registers callbacks at most. -/
theorem react_registers (r : Reaction σ) : Registers (react reenter r) := by
  have hworld (next : σ) : Registers
      (Act.modify fun s : Session σ => { s with world := next }) := registers_still fun _ => rfl
  induction r with
  | finish outcome next => exact (hworld next).bind fun _ => registers_ofExcept outcome
  | reenter t next resume ih =>
    exact (hworld next).bind fun _ => ((hr t).attempt_map _).bind fun failure =>
      (registers_record rfl).bind fun _ => registers_get.bind fun s => ih failure s.world
  | register c rest ih =>
    have hmore : Registers (modifyLifecycle (·.register c) : Act (Session σ) Unit) :=
      registers_modify (fun _ => rfl) fun s => List.prefix_append s.lifecycle.callbacks [c]
    exact hmore.bind fun _ => ih

/-- Callbacks are told in turn. What they do, they register more callbacks at most, and these
are not told. -/
theorem each_tell_run (x : Change) (cs : List Callback) (s : Session σ) :
    ∃ us t es, (Act.each (tell w reenter x.phase x.transition) cs).run s = ⟨.ok us, t, es⟩ ∧
      t.lifecycle.phase = s.lifecycle.phase ∧ s.lifecycle.callbacks <+: t.lifecycle.callbacks ∧
      es.filterMap Event.telling? = cs.map fun c => ⟨c, x, s.lifecycle.phase⟩ := by
  induction cs generalizing s with
  | nil => exact ⟨[], s, [], rfl, rfl, List.prefix_refl _, rfl⟩
  | cons c cs ih =>
    obtain ⟨logged, hlogged, hrun⟩ := tell_run (w := w) x c s
    have hadds := (react_registers hr (w.callback c x.phase x.transition s.world)).adds s
    generalize (react reenter (w.callback c x.phase x.transition s.world)).run s = r
      at hrun hadds
    generalize hfirst :
      Event.callback c x.phase x.transition s.lifecycle.phase :: r.events ++ logged = first at hrun
    obtain ⟨us, t, es, heach, hphase, hcallbacks, htold⟩ := ih r.state
    rw [hadds.phase] at hphase htold
    refine ⟨() :: us, t, first ++ es, Act.run_each_cons hrun heach, hphase,
      hadds.callbacks.trans hcallbacks, ?_⟩
    rw [← hfirst, List.filterMap_append, htold, List.filterMap_append, hlogged,
      List.append_nil, List.filterMap_cons, hadds.silent]
    rfl

end Session

/-- What a run from a session does that changes the phase. -/
structure Announced (x : Change) (s : Session σ) (r : Ran (Session σ) Unit) : Prop where
  /-- It does not fail. -/
  result : r.result = .ok ()
  phase : r.state.lifecycle.phase = x.phase
  callbacks : s.lifecycle.callbacks <+: r.state.lifecycle.callbacks
  /-- The callbacks that were registered at first are told once, in order, and see the new
  phase. -/
  tellings : r.events.filterMap Event.telling? = s.lifecycle.callbacks.map x.told

theorem Session.setPhase_announced (w : World σ) {reenter : Transition → Act (Session σ) Unit}
    (hr : ∀ t, Registers (reenter t)) (x : Change) (s : Session σ) :
    Announced x s ((setPhase w reenter x.phase x.transition).run s) := by
  let stored : Session σ := { s with lifecycle := s.lifecycle.store x.phase }
  obtain ⟨us, t, es, heach, hphase, hcallbacks, htold⟩ :=
    each_tell_run (w := w) hr x s.lifecycle.callbacks stored
  have hrun : (setPhase w reenter x.phase x.transition).run s = ⟨.ok (), t, es⟩ := by
    have hrest : (setPhase w reenter x.phase x.transition).run s =
        (Act.each (tell w reenter x.phase x.transition) s.lifecycle.callbacks >>= fun _ =>
          pure ()).run stored := rfl
    rw [hrest, Act.run_bind_of_ok heach]
    simp
  rw [hrun]
  exact ⟨rfl, hphase, hcallbacks, htold⟩

end ServerFleet
