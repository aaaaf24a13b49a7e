import ServerFleet.Event

/-!
# Actions

An action runs from a state. It gives a result or a failure, the state after it,
and the events it caused, in order. Actions run one after the other until one
fails; `attempt` turns a failure into a result.

* `run_bind`, `run_attempt` and the like say what each combinator does;
* `Act.zoom` runs an action on a part of the state;
* `Act.each` runs an action for every member of a list.
-/

namespace ServerFleet

/-- What a run ended in. -/
structure Ran (τ α : Type) where
  result : Except Failure α
  state : τ
  events : List Event

/-- An action on a state `τ`. -/
def Act (τ α : Type) : Type := τ → Ran τ α

namespace Act

variable {τ ρ α β : Type}

/-- Runs an action from a state. -/
def run (a : Act τ α) (s : τ) : Ran τ α := a s

theorem ext {a b : Act τ α} (h : ∀ s, a.run s = b.run s) : a = b := funext h

/-- Goes on from a run with a further action, unless the run failed. -/
def after (r : Ran τ α) (f : α → Act τ β) : Ran τ β :=
  match r.result with
  | .error e => ⟨.error e, r.state, r.events⟩
  | .ok x =>
    let next := (f x).run r.state
    ⟨next.result, next.state, r.events ++ next.events⟩

instance : Monad (Act τ) where
  pure x := fun s => ⟨.ok x, s, []⟩
  bind a f := fun s => after (a.run s) f
  map f a := fun s => ⟨f <$> (a.run s).result, (a.run s).state, (a.run s).events⟩

/-- Fails. -/
def fail (e : Failure) : Act τ α := fun s => ⟨.error e, s, []⟩

/-- Runs an action and gives its failure as a result. -/
def attempt (a : Act τ α) : Act τ (Except Failure α) := fun s =>
  let r := a.run s
  ⟨.ok r.result, r.state, r.events⟩

def ofExcept (r : Except Failure α) : Act τ α := fun s => ⟨r, s, []⟩

def get : Act τ τ := fun s => ⟨.ok s, s, []⟩

def modify (f : τ → τ) : Act τ Unit := fun s => ⟨.ok (), f s, []⟩

/-- Lets a function of the state decide both the result and the state. -/
def consult (f : τ → Except Failure α × τ) : Act τ α := fun s =>
  let r := f s
  ⟨r.1, r.2, []⟩

def record (e : Event) : Act τ Unit := fun s => ⟨.ok (), s, [e]⟩

def log (level : Level) (text : String) : Act τ Unit := record (.log level text)

/-- Runs an action on the part of the state that `get` finds and `put` puts
back. -/
def zoom (get : τ → ρ) (put : ρ → τ → τ) (a : Act ρ α) : Act τ α := fun s =>
  let r := a.run (get s)
  ⟨r.result, put r.state s, r.events⟩

/-- Runs an action for every member of a list, first to last. -/
def each (f : α → Act τ β) : List α → Act τ (List β)
  | [] => pure []
  | x :: xs => do
    let y ← f x
    (y :: ·) <$> each f xs

/-! ## What the combinators do -/

@[simp] theorem run_pure (x : α) (s : τ) : (pure x : Act τ α).run s = ⟨.ok x, s, []⟩ := rfl

@[simp] theorem run_map (f : α → β) (a : Act τ α) (s : τ) :
    (f <$> a).run s = ⟨f <$> (a.run s).result, (a.run s).state, (a.run s).events⟩ := rfl

theorem run_bind (a : Act τ α) (f : α → Act τ β) (s : τ) :
    (a >>= f).run s = after (a.run s) f := rfl

theorem run_bind_of_ok {a : Act τ α} {f : α → Act τ β} {s s' : τ} {x : α} {es : List Event}
    (h : a.run s = ⟨.ok x, s', es⟩) :
    (a >>= f).run s =
      ⟨((f x).run s').result, ((f x).run s').state, es ++ ((f x).run s').events⟩ := by
  rw [run_bind, h]; rfl

theorem run_bind_of_error {a : Act τ α} {f : α → Act τ β} {s s' : τ} {e : Failure}
    {es : List Event} (h : a.run s = ⟨.error e, s', es⟩) : (a >>= f).run s = ⟨.error e, s', es⟩ := by
  rw [run_bind, h]; rfl

/-- An action that gives a result went on from a result of its first part. -/
theorem run_bind_eq_ok {a : Act τ α} {f : α → Act τ β} {s : τ} {y : β}
    (h : ((a >>= f).run s).result = .ok y) :
    ∃ x, (a.run s).result = .ok x ∧ ((f x).run (a.run s).state).result = .ok y := by
  rw [run_bind] at h
  generalize a.run s = r at h
  obtain ⟨_ | x, s', es⟩ := r
  · cases h
  · exact ⟨x, rfl, h⟩

@[simp] theorem run_fail (e : Failure) (s : τ) : (fail e : Act τ α).run s = ⟨.error e, s, []⟩ := rfl

@[simp] theorem run_attempt (a : Act τ α) (s : τ) :
    (attempt a).run s = ⟨.ok (a.run s).result, (a.run s).state, (a.run s).events⟩ := rfl

@[simp] theorem run_ofExcept (r : Except Failure α) (s : τ) :
    (ofExcept r : Act τ α).run s = ⟨r, s, []⟩ := rfl

@[simp] theorem run_get (s : τ) : (get : Act τ τ).run s = ⟨.ok s, s, []⟩ := rfl

@[simp] theorem run_modify (f : τ → τ) (s : τ) : (modify f).run s = ⟨.ok (), f s, []⟩ := rfl

@[simp] theorem run_consult (f : τ → Except Failure α × τ) (s : τ) :
    (consult f).run s = ⟨(f s).1, (f s).2, []⟩ := rfl

@[simp] theorem run_record (e : Event) (s : τ) : (record e).run s = ⟨.ok (), s, [e]⟩ := rfl

@[simp] theorem run_log (level : Level) (text : String) (s : τ) :
    (log level text).run s = ⟨.ok (), s, [.log level text]⟩ := rfl

@[simp] theorem run_zoom (get : τ → ρ) (put : ρ → τ → τ) (a : Act ρ α) (s : τ) :
    (zoom get put a).run s =
      ⟨(a.run (get s)).result, put (a.run (get s)).state s, (a.run (get s)).events⟩ := rfl

theorem after_after (r : Ran τ α) (f : α → Act τ β) {γ : Type} (g : β → Act τ γ) :
    after (after r f) g = after r fun x => f x >>= g := by
  rcases r with ⟨_ | x, s, es⟩
  · rfl
  · show after ⟨((f x).run s).result, ((f x).run s).state, es ++ ((f x).run s).events⟩ g =
      ⟨(after ((f x).run s) g).result, (after ((f x).run s) g).state,
        es ++ (after ((f x).run s) g).events⟩
    rcases (f x).run s with ⟨_ | y, s', es'⟩ <;> simp [after, List.append_assoc]

/-- To go on with a value alone is to map the result. -/
theorem after_value (r : Ran τ α) (f : α → β) :
    after r (fun x => pure (f x)) = ⟨f <$> r.result, r.state, r.events⟩ := by
  rcases r with ⟨_ | _, _, _⟩
  · rfl
  · simp [after, Functor.map, Except.map]

theorem map_id (a : Act τ α) : id <$> a = a := by
  refine ext fun s => ?_
  rw [run_map]
  rcases a.run s with ⟨_ | _, _, _⟩ <;> rfl

instance : LawfulMonad (Act τ) :=
  LawfulMonad.mk' _ map_id (fun _ _ => rfl)
    (fun a f g => funext fun s => after_after (a.run s) f g) (fun _ _ => rfl) (fun _ _ => rfl)
    (fun _ _ => rfl) (fun f a => funext fun s => after_value (a.run s) f) (fun _ _ => rfl)

/-! ## Actions for lists -/

theorem each_map {γ : Type} (f : β → Act τ γ) (g : α → β) (xs : List α) :
    each f (xs.map g) = each (fun x => f (g x)) xs := by
  induction xs with
  | nil => rfl
  | cons x xs ih => rw [List.map_cons, each, each, ih]

theorem each_append (f : α → Act τ β) (xs xs' : List α) : each f (xs ++ xs') = (do
    let ys ← each f xs
    (ys ++ ·) <$> each f xs') := by
  induction xs with
  | nil => simp [each]
  | cons x xs ih => simp [each, ih]

theorem run_each_cons {f : α → Act τ β} {x : α} {xs : List α} {y : β} {ys : List β}
    {s s' s'' : τ} {es es' : List Event} (h : (f x).run s = ⟨.ok y, s', es⟩)
    (h' : (each f xs).run s' = ⟨.ok ys, s'', es'⟩) :
    (each f (x :: xs)).run s = ⟨.ok (y :: ys), s'', es ++ es'⟩ := by
  rw [each, run_bind_of_ok h, run_map, h']
  rfl

/-- Actions for a list that gave their results gave the first one, and went on with the others. -/
theorem run_each_cons_eq_ok {f : α → Act τ β} {x : α} {xs : List α} {zs : List β} {s s'' : τ}
    {es : List Event} (h : (each f (x :: xs)).run s = ⟨.ok zs, s'', es⟩) :
    ∃ y s' es₁ ys es₂, (f x).run s = ⟨.ok y, s', es₁⟩ ∧ (each f xs).run s' = ⟨.ok ys, s'', es₂⟩ ∧
      zs = y :: ys ∧ es = es₁ ++ es₂ := by
  rcases hfirst : (f x).run s with ⟨e | y, s', es₁⟩
  · rw [each, run_bind_of_error hfirst] at h
    cases h
  rcases hrest : (each f xs).run s' with ⟨e | ys, t, es₂⟩
  · rw [each, run_bind_of_ok hfirst, run_map, hrest] at h
    cases h
  · rw [run_each_cons hfirst hrest] at h
    cases h
    exact ⟨y, s', es₁, ys, es₂, rfl, hrest, rfl, rfl⟩

/-- Actions for two lists in turn are actions for the lists put together. -/
theorem run_each_append {f : α → Act τ β} {xs xs' : List α} {ys ys' : List β} {s s' s'' : τ}
    {es es' : List Event} (h : (each f xs).run s = ⟨.ok ys, s', es⟩)
    (h' : (each f xs').run s' = ⟨.ok ys', s'', es'⟩) :
    (each f (xs ++ xs')).run s = ⟨.ok (ys ++ ys'), s'', es ++ es'⟩ := by
  rw [each_append, run_bind_of_ok h, run_map, h']
  rfl

end Act

end ServerFleet
