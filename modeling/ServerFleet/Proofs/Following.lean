import ServerFleet.Proofs.Plan

/-!
# Actions that follow a plan

`FollowsAt` says that an action takes the steps of a plan: all of them if it gives
a result, and those up to the one that failed if it fails, which is then a
failure that the step does not handle. An `Account` says what else is watched on
the way: how the sessions before and after fit the steps taken and the events
caused. It answers for every step alone (`Account.take`), and the rules here
carry that to actions made of steps:

* `Follows.bind`, `Follows.each`: the plans of actions in turn, put together;
* `Follows.never_fails`: an action all of whose failed steps are handled gives a
  result.
-/

namespace ServerFleet

/-- Takes a step. -/
def Crew.take {σ : Type} (crew : Crew σ) : Step → Act (Session σ) Unit
  | .dispatch target command isLocal =>
    Dispatch.control crew.settings crew.collaborators isLocal target command
  | .request r => crew.collaborators.admin r
  | .wait seconds => crew.collaborators.sleep seconds
  | .purge roles => crew.collaborators.purge roles

/-- What is watched of a crew at work. -/
structure Account {σ : Type} (crew : Crew σ) where
  /-- Whether a session, the entries of the steps taken from there and the events
  caused fit the session at the end. -/
  Fits : Session σ → List Entry → List Event → Session σ → Prop
  nil (s : Session σ) : Fits s [] [] s
  append {s s' s'' : Session σ} {l l' : List Entry} {es es' : List Event} :
    Fits s l es s' → Fits s' l' es' s'' → Fits s (l ++ l') (es ++ es') s''
  log (s : Session σ) (level : Level) (text : String) : Fits s [] [.log level text] s
  pool (s : Session σ) (step : PoolStep) : Fits s [] [.pool step] s
  asking (s : Session σ) (host : String) :
    let r := (Session.asking (Identity.isLocal crew.world (some host))).run s
    Fits s [] r.events r.state
  askingOwn (s : Session σ) (host : String) :
    let r := (Session.askingOwn (Identity.isLocal crew.world (some host))).run s
    Fits s [] r.events r.state
  take (s : Session σ) (step : Step) :
    let r := (crew.take step).run s
    Fits s [⟨step, r.result⟩] r.events r.state
  /-- A step leaves the pool and the identities alone. -/
  take_pool (s : Session σ) (step : Step) :
    ((crew.take step).run s).state.poolOpen = s.poolOpen
  take_views (s : Session σ) (step : Step) : ((crew.take step).run s).state.views = s.views

/-- How steps that were taken keep to a plan, with the result `r` and the
identities `v` at the end. -/
inductive Keeping {α : Type} (plan : Views → List Step) (Q : List Entry → α → Prop) (v : Views)
    (l : List Entry) : Except Failure α → Prop where
  | done {x : α} (steps : ∀ n, v.Grows n → l.map Entry.step = plan n) (result : Q l x) :
      Keeping plan Q v l (.ok x)
  | broken {e : Failure} {step : Step} (before : List Entry)
      (steps : ∀ n, v.Grows n → l.map Entry.step <+: plan n)
      (last : l = before ++ [⟨step, .error e⟩]) (escapes : ¬ step.Handles e) :
      Keeping plan Q v l (.error e)

variable {σ α β : Type} {crew : Crew σ}

/-- From the session `s`, the action `a` takes the steps of `plan`, and if it gives
a result, then one that `Q` allows after the entries of the steps. -/
def FollowsAt (A : Account crew) (s : Session σ) (a : Act (Session σ) α)
    (plan : Views → List Step) (Q : List Entry → α → Prop) : Prop :=
  ∃ l, A.Fits s l (a.run s).events (a.run s).state ∧ (a.run s).state.poolOpen = true ∧
    s.views.Grows (a.run s).state.views ∧
    Keeping plan Q (a.run s).state.views l (a.run s).result

/-- From every session with an open pool, the action takes the steps of `plan`. -/
def Follows (A : Account crew) (a : Act (Session σ) α) (plan : Views → List Step)
    (Q : List Entry → α → Prop) : Prop :=
  ∀ s, s.poolOpen = true → FollowsAt A s a plan Q

variable {A : Account crew} {s : Session σ} {a : Act (Session σ) α}
  {f : α → Act (Session σ) β} {p q : Views → List Step} {Q : List Entry → α → Prop}

/-! ## Rules -/

/-- Only the plans for the identities that a session may come to matter. -/
theorem Keeping.imp {T : List Entry → α → Prop} {v : Views} {l : List Entry}
    {r : Except Failure α} (h : Keeping p Q v l r) (hp : ∀ n, v.Grows n → p n = q n)
    (hQ : ∀ x, Q l x → T l x) : Keeping q T v l r := by
  cases h with
  | done steps result => exact .done (fun n hn => (steps n hn).trans (hp n hn)) (hQ _ result)
  | broken before steps last escapes =>
    exact .broken before (fun n hn => hp n hn ▸ steps n hn) last escapes

theorem FollowsAt.congr (h : FollowsAt A s a p Q) (hp : ∀ n, s.views.Grows n → p n = q n) :
    FollowsAt A s a q Q := by
  obtain ⟨l, hfit, hpool, hg, hk⟩ := h
  exact ⟨l, hfit, hpool, hg, hk.imp (fun n hn => hp n (hg.trans hn)) fun _ => id⟩

theorem FollowsAt.imp {T : List Entry → α → Prop} (h : FollowsAt A s a p Q)
    (hQ : ∀ l x, Q l x → T l x) : FollowsAt A s a p T := by
  obtain ⟨l, hfit, hpool, hg, hk⟩ := h
  exact ⟨l, hfit, hpool, hg, hk.imp (fun _ _ => rfl) (hQ l)⟩

/-- An action and one that goes on from its result take the steps of both plans. -/
theorem FollowsAt.bind {R : α → List Entry → β → Prop} {T : List Entry → β → Prop}
    (h : FollowsAt A s a p Q)
    (hf : ∀ x l, Q l x → (a.run s).result = .ok x → (a.run s).state.poolOpen = true →
      FollowsAt A (a.run s).state (f x) q (R x))
    (hT : ∀ x l₁ l₂ y, Q l₁ x → R x l₂ y → T (l₁ ++ l₂) y) :
    FollowsAt A s (a >>= f) (fun n => p n ++ q n) T := by
  obtain ⟨l₁, hfit, hpool, hg, hk⟩ := h
  generalize hr : a.run s = r at *
  obtain ⟨res, s', es⟩ := r
  cases hk with
  | broken before steps last escapes =>
    refine ⟨l₁, ?_⟩
    rw [Act.run_bind_of_error hr]
    exact ⟨hfit, hpool, hg,
      .broken before (fun n hn => (steps n hn).trans (List.prefix_append _ _)) last escapes⟩
  | @done x steps result =>
    obtain ⟨l₂, hfit₂, hpool₂, hg₂, hk₂⟩ := hf x l₁ result rfl hpool
    refine ⟨l₁ ++ l₂, ?_⟩
    rw [Act.run_bind_of_ok hr]
    refine ⟨A.append hfit hfit₂, hpool₂, hg.trans hg₂, ?_⟩
    have hstep (n : Views) (hn : ((f x).run s').state.views.Grows n) :
        (l₁ ++ l₂).map Entry.step = p n ++ l₂.map Entry.step := by
      rw [List.map_append, steps n (hg₂.trans hn)]
    dsimp only at hk₂ ⊢
    generalize ((f x).run s').result = res₂ at hk₂
    cases hk₂ with
    | done steps₂ result₂ =>
      exact .done (fun n hn => by rw [hstep n hn, steps₂ n hn]) (hT x l₁ l₂ _ result result₂)
    | broken before steps₂ last escapes =>
      refine .broken (l₁ ++ before) (fun n hn => ?_) ?_ escapes
      · rw [hstep n hn]
        exact (List.prefix_append_right_inj _).mpr (steps₂ n hn)
      · rw [last, List.append_assoc]

theorem Follows.bind {R : α → List Entry → β → Prop} {T : List Entry → β → Prop}
    (h : Follows A a p Q) (hf : ∀ x l, Q l x → Follows A (f x) q (R x))
    (hT : ∀ x l₁ l₂ y, Q l₁ x → R x l₂ y → T (l₁ ++ l₂) y) :
    Follows A (a >>= f) (fun n => p n ++ q n) T :=
  fun s hs => (h s hs).bind (fun x l hQ _ hp => hf x l hQ _ hp) hT

theorem Follows.pure (x : α) :
    Follows A (Pure.pure x : Act (Session σ) α) (fun _ => []) fun l y => l = [] ∧ y = x :=
  fun s hs => ⟨[], A.nil s, hs, .refl _, .done (fun _ _ => rfl) ⟨rfl, rfl⟩⟩

/-- An action and a last one that takes no step of its own. -/
theorem Follows.bind_pure {g : α → β} {T : List Entry → β → Prop} (h : Follows A a p Q)
    (hT : ∀ x l, Q l x → T l (g x)) :
    Follows A (a >>= fun x => Pure.pure (g x)) p T := by
  intro s hs
  refine ((h s hs).bind (fun x _ _ _ hp => Follows.pure (g x) _ hp) ?_).congr fun n _ =>
    List.append_nil _
  rintro x l₁ l₂ y hQ ⟨rfl, rfl⟩
  rw [List.append_nil]
  exact hT x l₁ hQ

theorem Follows.imp {T : List Entry → α → Prop} (h : Follows A a p Q)
    (hQ : ∀ l x, Q l x → T l x) : Follows A a p T := fun s hs => (h s hs).imp hQ

theorem Follows.congr (h : Follows A a p Q) (hp : ∀ n, p n = q n) : Follows A a q Q :=
  fun s hs => (h s hs).congr fun n _ => hp n

/-- An event that fits any session, and what is done after it. -/
theorem Follows.record_bind {e : Event} {f : Unit → Act (Session σ) α}
    (he : ∀ s, A.Fits s [] [e] s) (h : Follows A (f ()) p Q) :
    Follows A (Act.record e >>= f) p Q := by
  have hrec : Follows A (Act.record e) (fun _ => []) fun l _ => l = [] :=
    fun s hs => ⟨[], he s, hs, .refl _, .done (fun _ _ => rfl) rfl⟩
  refine Follows.bind hrec (fun _ _ _ => h) ?_
  rintro _ l₁ l₂ y rfl hQ
  exact hQ

theorem Follows.log_bind {level : Level} {text : String} {f : Unit → Act (Session σ) α}
    (h : Follows A (f ()) p Q) : Follows A (Act.log level text >>= f) p Q :=
  Follows.record_bind (A.log · level text) h

/-- Commands for every member of a list, where `g` gives the outcomes, take the steps
for each in turn. -/
theorem Follows.each {f : α → Act (Session σ) β} {p : α → Views → List Step}
    (g : β → List Outcome) (h : ∀ x, Follows A (f x) (p x) fun l y => Ledger.Commands l (g y))
    (xs : List α) :
    Follows A (Act.each f xs) (fun n => xs.flatMap (p · n)) fun l ys =>
      Ledger.Commands l (ys.flatMap g) ∧ ys.length = xs.length := by
  induction xs with
  | nil =>
    refine (Follows.pure []).imp ?_
    rintro l ys ⟨rfl, rfl⟩
    exact ⟨.nil, rfl⟩
  | cons x xs ih =>
    refine Follows.bind (h x) (R := fun y l ys =>
      ∃ rest, ys = y :: rest ∧ Ledger.Commands l (rest.flatMap g) ∧ rest.length = xs.length)
      (fun y _ _ => ?_) ?_
    · rw [map_eq_pure_bind]
      exact ih.bind_pure fun rest l hl => ⟨rest, rfl, hl⟩
    · rintro y l₁ l₂ ys h₁ ⟨rest, rfl, h₂, hlen⟩
      exact ⟨h₁.append h₂, congrArg (· + 1) hlen⟩

/-- An action whose failed steps are all handled gives a result, after all the
steps of its plan. -/
theorem FollowsAt.never_fails (h : FollowsAt A s a p Q)
    (hok : ∀ l es s', A.Fits s l es s' → ∀ step e, ⟨step, .error e⟩ ∈ l →
      (∃ n, step ∈ p n) → step.Handles e) :
    ∃ l x, (a.run s).result = .ok x ∧ A.Fits s l (a.run s).events (a.run s).state ∧ Q l x ∧
      l.map Entry.step = p (a.run s).state.views := by
  obtain ⟨l, hfit, -, -, hk⟩ := h
  generalize (a.run s).result = res at hk
  cases hk with
  | done steps result => exact ⟨l, _, rfl, hfit, result, steps _ (.refl _)⟩
  | @broken e step before steps last escapes =>
    refine absurd (hok l _ _ hfit step e (by simp [last])
      ⟨(a.run s).state.views, ?_⟩) escapes
    have hmem : step ∈ l.map Entry.step := by simp [last]
    exact (steps _ (.refl _)).subset hmem

/-- The plan of an action that gave a result is settled. -/
theorem FollowsAt.plan_eq (h : FollowsAt A s a p Q) {x : α} (hr : (a.run s).result = .ok x)
    {n : Views} (hn : (a.run s).state.views.Grows n) : p n = p (a.run s).state.views := by
  obtain ⟨l, -, -, -, hk⟩ := h
  rw [hr] at hk
  cases hk with
  | done steps result => exact (steps n hn).symm.trans (steps _ (.refl _))

end ServerFleet
