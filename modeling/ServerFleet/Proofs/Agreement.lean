import ServerFleet.Act

/-!
# Actions that agree

Two actions agree on an invariant if they run alike from every state that
satisfies it, end in such a state whether they fail or not, and cause only
events of the kind allowed. An action that agrees with itself keeps the
invariant (`Keeps`).

Each combinator passes agreement on from its parts to the whole, so that a fact
about the calls that a long action makes becomes a fact about the action:

* `Agree.bind`, `Agree.attempt`, `Agree.each`: actions in turn;
* `Agree.zoom`: an action on a part of the state.

Where an action does change what is watched, `Leads` says what holds after a
result and what after a failure (`Leads.bind`).
-/

namespace ServerFleet.Act

variable {τ ρ α β : Type} {I : τ → Prop} {E : Event → Prop}

/-- `a` and `b` run alike from the states that satisfy `I`, where they end in
such a state again and cause only events that satisfy `E`. -/
def Agree (I : τ → Prop) (E : Event → Prop) (a b : Act τ α) : Prop :=
  ∀ s, I s → a.run s = b.run s ∧ I (a.run s).state ∧ ∀ e ∈ (a.run s).events, E e

/-- `a` keeps `I` and causes only events that satisfy `E`. -/
abbrev Keeps (I : τ → Prop) (E : Event → Prop) (a : Act τ α) : Prop := Agree I E a a

/-- A run that ends where it began and causes nothing. -/
theorem agree_of_still {a b : Act τ α} (h : ∀ s, I s → a.run s = b.run s)
    (hs : ∀ s, I s → (a.run s).state = s ∧ (a.run s).events = []) : Agree I E a b := by
  intro s hi
  obtain ⟨h₁, h₂⟩ := hs s hi
  exact ⟨h s hi, by rw [h₁]; exact hi, by rw [h₂]; intro e he; cases he⟩

theorem keeps_pure (x : α) : Keeps I E (pure x : Act τ α) :=
  agree_of_still (fun _ _ => rfl) fun _ _ => ⟨rfl, rfl⟩

theorem keeps_fail (e : Failure) : Keeps I E (fail e : Act τ α) :=
  agree_of_still (fun _ _ => rfl) fun _ _ => ⟨rfl, rfl⟩

theorem keeps_ofExcept (r : Except Failure α) : Keeps I E (ofExcept r : Act τ α) :=
  agree_of_still (fun _ _ => rfl) fun _ _ => ⟨rfl, rfl⟩

theorem keeps_get : Keeps I E (get : Act τ τ) :=
  agree_of_still (fun _ _ => rfl) fun _ _ => ⟨rfl, rfl⟩

theorem keeps_modify {f : τ → τ} (h : ∀ s, I s → I (f s)) : Keeps I E (modify f) :=
  fun s hi => ⟨rfl, h s hi, fun e he => by cases he⟩

theorem keeps_consult {f : τ → Except Failure α × τ} (h : ∀ s, I s → I (f s).2) :
    Keeps I E (consult f) :=
  fun s hi => ⟨rfl, h s hi, fun e he => by cases he⟩

theorem keeps_record {e : Event} (h : E e) : Keeps I E (record e : Act τ Unit) := by
  refine fun s hi => ⟨rfl, hi, fun e' he => ?_⟩
  rw [run_record, List.mem_singleton] at he
  exact he ▸ h

theorem keeps_log {level : Level} {text : String} (h : E (.log level text)) :
    Keeps I E (log level text : Act τ Unit) := keeps_record h

theorem Agree.bind {a b : Act τ α} {f g : α → Act τ β} (h : Agree I E a b)
    (hf : ∀ x, Agree I E (f x) (g x)) : Agree I E (a >>= f) (b >>= g) := by
  intro s hi
  obtain ⟨heq, hi', he⟩ := h s hi
  rw [run_bind, run_bind, ← heq]
  generalize a.run s = r at hi' he
  obtain ⟨_ | x, s', es⟩ := r
  · exact ⟨rfl, hi', he⟩
  · obtain ⟨heq₂, hi₂, he₂⟩ := hf x s' hi'
    refine ⟨by simp only [after, heq₂], hi₂, fun e hmem => ?_⟩
    rcases List.mem_append.mp hmem with hmem | hmem
    · exact he e hmem
    · exact he₂ e hmem

theorem Agree.map {a b : Act τ α} (h : Agree I E a b) (f : α → β) :
    Agree I E (f <$> a) (f <$> b) := by
  intro s hi
  obtain ⟨heq, hi', he⟩ := h s hi
  exact ⟨by rw [run_map, run_map, heq], hi', he⟩

theorem Agree.attempt {a b : Act τ α} (h : Agree I E a b) :
    Agree I E a.attempt b.attempt := by
  intro s hi
  obtain ⟨heq, hi', he⟩ := h s hi
  exact ⟨by rw [run_attempt, run_attempt, heq], hi', he⟩

theorem Agree.each {f g : α → Act τ β} (h : ∀ x, Agree I E (f x) (g x)) (xs : List α) :
    Agree I E (each f xs) (each g xs) := by
  induction xs with
  | nil => exact keeps_pure _
  | cons x xs ih => exact (h x).bind fun y => ih.map (y :: ·)

/-- An action on a part of the state, where the part satisfies `J` whenever the
whole satisfies `I`, and putting back such a part keeps `I`. -/
theorem Agree.zoom {J : ρ → Prop} {a b : Act ρ α} (h : Agree J E a b) {get : τ → ρ}
    {put : ρ → τ → τ} (hget : ∀ s, I s → J (get s)) (hput : ∀ s r, I s → J r → I (put r s)) :
    Agree I E (a.zoom get put) (b.zoom get put) := by
  intro s hi
  obtain ⟨heq, hj, he⟩ := h (get s) (hget s hi)
  exact ⟨by rw [run_zoom, run_zoom, heq], hput s _ hi hj, he⟩

/-! ## Where actions lead -/

/-- `a` and `b` run alike from the states that satisfy `I` and cause only events that
satisfy `E`. With a result `x` they end in a state that satisfies `J x`, with a failure
in one that satisfies `K`. -/
def Leads (I : τ → Prop) (E : Event → Prop) (a b : Act τ α) (J : α → τ → Prop)
    (K : τ → Prop) : Prop :=
  ∀ s, I s → a.run s = b.run s ∧ (∀ e ∈ (a.run s).events, E e) ∧
    match (a.run s).result with
    | .ok x => J x (a.run s).state
    | .error _ => K (a.run s).state

variable {J : α → τ → Prop} {K : τ → Prop}

theorem Agree.leads {a b : Act τ α} (h : Agree I E a b) : Leads I E a b (fun _ => I) I := by
  intro s hi
  obtain ⟨heq, hi', he⟩ := h s hi
  refine ⟨heq, he, ?_⟩
  cases (a.run s).result <;> exact hi'

theorem Leads.agree {a b : Act τ α} (h : Leads I E a b (fun _ => I) I) : Agree I E a b := by
  intro s hi
  obtain ⟨heq, he, hend⟩ := h s hi
  refine ⟨heq, ?_, he⟩
  generalize (a.run s).result = res at hend
  cases res <;> exact hend

theorem Leads.of_ok {a b : Act τ α} (h : Leads I E a b J K) {s : τ} (hi : I s) {x : α}
    (hr : (a.run s).result = .ok x) : J x (a.run s).state := by
  obtain ⟨-, -, hend⟩ := h s hi
  rw [hr] at hend
  exact hend

theorem Leads.of_error {a b : Act τ α} (h : Leads I E a b J K) {s : τ} (hi : I s) {e : Failure}
    (hr : (a.run s).result = .error e) : K (a.run s).state := by
  obtain ⟨-, -, hend⟩ := h s hi
  rw [hr] at hend
  exact hend

theorem leads_pure (x : α) (h : ∀ s, I s → J x s) : Leads I E (pure x) (pure x) J K :=
  fun s hi => ⟨rfl, fun _ he => absurd he List.not_mem_nil, h s hi⟩

/-- The state that is read is the one that the action goes on from. -/
theorem leads_get : Leads I E get get (fun x s => s = x ∧ I s) K :=
  fun _ hi => ⟨rfl, fun _ he => absurd he List.not_mem_nil, rfl, hi⟩

theorem leads_modify {f : τ → τ} {J : Unit → τ → Prop} (h : ∀ s, I s → J () (f s)) :
    Leads I E (modify f) (modify f) J K :=
  fun s hi => ⟨rfl, fun _ he => absurd he List.not_mem_nil, h s hi⟩

theorem leads_record {e : Event} (h : E e) :
    Leads I E (record e) (record e) (fun _ => I) K := by
  refine fun s hi => ⟨rfl, fun e' he => ?_, hi⟩
  rw [run_record, List.mem_singleton] at he
  exact he ▸ h

theorem Leads.pre {a b : Act τ α} {I' : τ → Prop} (h : Leads I E a b J K)
    (hI : ∀ s, I' s → I s) : Leads I' E a b J K := fun s hi => h s (hI s hi)

theorem Leads.imp {a b : Act τ α} {J' : α → τ → Prop} {K' : τ → Prop} (h : Leads I E a b J K)
    (hJ : ∀ x s, J x s → J' x s) (hK : ∀ s, K s → K' s) : Leads I E a b J' K' := by
  intro s hi
  obtain ⟨heq, he, hend⟩ := h s hi
  refine ⟨heq, he, ?_⟩
  generalize (a.run s).result = res at hend
  cases res with
  | ok x => exact hJ x _ hend
  | error e => exact hK _ hend

theorem Leads.bind {a b : Act τ α} {f g : α → Act τ β} {L : β → τ → Prop}
    (h : Leads I E a b J K) (hf : ∀ x, Leads (J x) E (f x) (g x) L K) :
    Leads I E (a >>= f) (b >>= g) L K := by
  intro s hi
  obtain ⟨heq, he, hend⟩ := h s hi
  rw [run_bind, run_bind, ← heq]
  generalize a.run s = r at he hend
  obtain ⟨_ | x, s', es⟩ := r
  · exact ⟨rfl, he, hend⟩
  · obtain ⟨heq₂, he₂, hend₂⟩ := hf x s' hend
    refine ⟨by simp only [after, heq₂], fun e hmem => ?_, hend₂⟩
    rcases List.mem_append.mp hmem with hmem | hmem
    · exact he e hmem
    · exact he₂ e hmem

/-- An action that always gives a result does not fail. -/
theorem Agree.leads_of_ok {a b : Act τ α} (h : Agree I E a b)
    (hok : ∀ s, ∃ x, (a.run s).result = .ok x) : Leads I E a b (fun _ => I) K := by
  intro s hi
  obtain ⟨heq, hi', he⟩ := h s hi
  obtain ⟨x, hx⟩ := hok s
  rw [hx]
  exact ⟨heq, he, hi'⟩

/-- An action that leads nowhere by a failure gives a result. -/
theorem Leads.run_ok {a b : Act τ α} (h : Leads I E a b J fun _ => False) {s : τ} (hi : I s) :
    ∃ x s' es, a.run s = ⟨.ok x, s', es⟩ ∧ J x s' ∧ ∀ e ∈ es, E e := by
  obtain ⟨-, he, hend⟩ := h s hi
  generalize a.run s = r at he hend
  obtain ⟨_ | x, s', es⟩ := r
  · cases hend
  · exact ⟨x, s', es, rfl, hend, he⟩

/-- An action whose failures are caught does not fail. -/
theorem Agree.leads_attempt {a b : Act τ α} (h : Agree I E a b) :
    Leads I E a.attempt b.attempt (fun _ => I) K := by
  intro s hi
  obtain ⟨heq, hi', he⟩ := h s hi
  exact ⟨by rw [run_attempt, run_attempt, heq], he, hi'⟩

theorem Leads.each {f g : α → Act τ β} (h : ∀ x, Leads I E (f x) (g x) (fun _ => I) K)
    (xs : List α) : Leads I E (each f xs) (each g xs) (fun _ => I) K := by
  induction xs with
  | nil => exact leads_pure _ fun _ h => h
  | cons x xs ih =>
    refine (h x).bind fun y => ?_
    rw [map_eq_pure_bind, map_eq_pure_bind]
    exact ih.bind fun ys => leads_pure _ fun _ h => h

end ServerFleet.Act
