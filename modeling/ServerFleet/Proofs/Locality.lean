import ServerFleet.Proofs.Agreement
import ServerFleet.Session

/-!
# What an identity says of hosts

`Identity.knows` says whether a host is this machine by the names known so far.
An identity grows once: when its names are found, which are kept from then on.
A query never fails, and its answer is what the identity says from the query on,
whatever becomes of the machine:

* `Identity.isLocal_run`: the answer to a query, and what the identity grew to;
* `Identity.loopback_subset_of_discover`: the names that are found have the loopback
  names among them;
* `Identity.knows_of_grows`: what is settled of a host stays so;
* `Session.asking_run`, `Session.askingOwn_run`: the queries of a session, which
  goes by two identities.
-/

namespace ServerFleet

namespace Identity

/-- Whether a host is this machine, by the names known so far. -/
def knows (i : Identity) (host : String) : Bool :=
  normalName host != "" &&
    (loopbackNames.contains (normalName host) ||
      (i.names?.getD []).contains (normalName host))

/-- Whether what is said of a host can no longer change. -/
def Settles (i : Identity) (host : String) : Prop :=
  normalName host = "" ∨ normalName host ∈ loopbackNames ∨ i.names?.isSome

/-- `j` is what `i` is or may become. -/
def Grows (i j : Identity) : Prop := i.names? = none ∨ j = i

/-- Whether the loopback names are among the names known, if any are. -/
def Sound (i : Identity) : Prop := ∀ known, i.names? = some known → loopbackNames ⊆ known

theorem Grows.refl (i : Identity) : i.Grows i := .inr rfl

theorem Grows.trans {i j k : Identity} (h₁ : i.Grows j) (h₂ : j.Grows k) : i.Grows k := by
  rcases h₁ with h | rfl
  · exact .inl h
  · exact h₂

/-- What is settled of a host stays so. -/
theorem knows_of_grows {i j : Identity} {host : String} (h : i.Settles host) (hg : i.Grows j) :
    j.knows host = i.knows host := by
  rcases hg with hn | rfl
  · rcases h with h | h | h
    · simp [knows, h]
    · simp [knows, h]
    · rw [hn] at h; cases h
  · rfl

variable {σ : Type} (w : World σ) {P : σ → Prop} {E : Event → Prop}

section Keeps

variable (hP : ∀ s, P s → P (w.machine s).2) (hE : ∀ level text, E (.log level text))

include hP in
theorem keeps_ask {α : Type} (question : Machine → Except Failure α) :
    Act.Keeps P E (ask w question) := Act.keeps_consult hP

theorem keeps_onFailure {τ α : Type} {I : τ → Prop} {caught : Kind → Bool} {a : Act τ α}
    {instead : Failure → Act τ α} (ha : Act.Keeps I E a) (hi : ∀ e, Act.Keeps I E (instead e)) :
    Act.Keeps I E (onFailure caught a instead) := by
  refine ha.attempt.bind fun r => ?_
  rcases r with e | x
  · dsimp only
    split
    · exact hi e
    · exact Act.keeps_fail e
  · exact Act.keeps_pure x

include hP hE in
theorem keeps_discover : Act.Keeps P E (discover w) := by
  have hlog {α : Type} (text : String) (x : α) :
      Act.Keeps P E (do Act.log .debug text; return x) :=
    (Act.keeps_log (hE _ _)).bind fun _ => Act.keeps_pure x
  refine (keeps_onFailure (keeps_ask w hP _) fun _ => hlog _ _).bind fun _ =>
    (keeps_onFailure (keeps_ask w hP _) fun _ => hlog _ _).bind fun _ =>
    Act.Agree.bind ?_ fun _ => Act.keeps_pure _
  refine (keeps_onFailure ?_ fun _ => hlog _ _).bind fun r => ?_
  · exact (keeps_ask w hP _).bind fun _ => (keeps_ask w hP _).bind fun _ => Act.keeps_pure _
  rcases r with _ | address
  · refine keeps_onFailure ?_ fun _ => hlog _ _
    exact (keeps_ask w hP _).bind fun _ => (keeps_ask w hP _).bind fun _ => Act.keeps_pure _
  · exact Act.keeps_pure _

include hP hE in
/-- Finding the names asks the machine and writes to the log, no more. -/
theorem keeps_names : Act.Keeps (fun v : Vantage σ => P v.world) E (names w) := by
  refine Act.keeps_get.bind fun v => ?_
  split
  · exact Act.keeps_pure _
  · have hstore (found : List String) : Act.Keeps (fun v : Vantage σ => P v.world) E (do
        Act.modify fun v => { v with identity := ⟨some found⟩ }
        return found) := by
      refine Act.Agree.bind (Act.keeps_modify ?_) fun _ => Act.keeps_pure _
      exact fun _ h => h
    refine (Act.Agree.attempt ((keeps_discover w hP hE).zoom (fun _ h => h)
      fun _ _ _ h => h)).bind fun r => ?_
    rcases r with e | found
    · exact (Act.keeps_log (hE _ _)).bind fun _ => (Act.keeps_pure _).bind hstore
    · exact (Act.keeps_pure _).bind hstore

include hP hE in
theorem keeps_isLocal (host : Option String) :
    Act.Keeps (fun v : Vantage σ => P v.world) E (isLocal w host) := by
  unfold isLocal
  dsimp only
  split
  · exact Act.keeps_pure _
  split
  · exact Act.keeps_pure _
  · exact (keeps_names w hP hE).bind fun _ => Act.keeps_pure _

end Keeps

theorem mem_foldl_addName {start names : List String} {n : String} :
    n ∈ names.foldl addName start ↔ n ∈ start ∨ (n ∈ names ∧ n ≠ "") := by
  induction names generalizing start with
  | nil => simp
  | cons name names ih =>
    rw [List.foldl_cons, ih, mem_addName, List.mem_cons]
    grind

/-- The normal forms of some names are those that are not empty. -/
theorem mem_normalNames {names : List String} {n : String} :
    n ∈ normalNames names ↔ ∃ name ∈ names, normalName name = n ∧ n ≠ "" := by
  rw [normalNames, mem_foldl_addName, List.mem_map]
  grind

/-- The loopback names are among the names that are found. -/
theorem loopback_subset_of_discover {s : σ} {found : List String}
    (h : ((discover w).run s).result = .ok found) : loopbackNames ⊆ normalNames found := by
  obtain ⟨hostName, -, h⟩ := Act.run_bind_eq_ok h
  obtain ⟨fullName, -, h⟩ := Act.run_bind_eq_ok h
  obtain ⟨address, -, h⟩ := Act.run_bind_eq_ok h
  have hnormal : ∀ n ∈ loopbackNames, normalName n = n ∧ n ≠ "" := by decide
  intro n hn
  refine mem_normalNames.mpr ⟨n, ?_, hnormal n hn⟩
  rw [← Except.ok.inj h]
  exact mem_foldl_addName.mpr (.inl hn)

/-- Asking for the names gives them, and they are known from then on. -/
theorem names_run (v : Vantage σ) : ∃ found v' es, (names w).run v = ⟨.ok found, v', es⟩ ∧
    v'.identity.names? = some found ∧ v.identity.Grows v'.identity ∧
    (v.identity.Sound → loopbackNames ⊆ found) := by
  rcases hk : v.identity.names? with _ | known
  · obtain ⟨world, identity⟩ := v
    simp only at hk
    unfold names
    rw [Act.run_bind_of_ok (Act.run_get _)]
    simp only [hk, Act.run_bind, Act.after, Act.run_attempt, Act.run_zoom]
    generalize hr : (discover w).run world = r
    obtain ⟨e | found, world', es⟩ := r
    · exact ⟨loopbackNames, ⟨world', ⟨some loopbackNames⟩⟩, _, rfl, rfl, .inl hk,
        fun _ => List.Subset.refl _⟩
    · have hfound := loopback_subset_of_discover w (congrArg Ran.result hr)
      exact ⟨normalNames found, ⟨world', ⟨some (normalNames found)⟩⟩, _, rfl, rfl, .inl hk,
        fun _ => hfound⟩
  · exact ⟨known, v, [], names_eq_of_known w hk, hk, .refl _, fun h => h known hk⟩

/-- A query of a host never fails. Its answer is what the identity says of the
host after it, which is settled, and a sound identity stays sound. -/
theorem isLocal_run (host : String) (v : Vantage σ) : ∃ v' es,
    (isLocal w (some host)).run v = ⟨.ok (v'.identity.knows host), v', es⟩ ∧
    v.identity.Grows v'.identity ∧ v'.identity.Settles host ∧
    (v.identity.Sound → v'.identity.Sound) := by
  unfold isLocal
  dsimp only [Option.getD_some]
  by_cases he : normalName host = ""
  · exact ⟨v, [], by simp [he, knows], .refl _, .inl he, id⟩
  by_cases hl : normalName host ∈ loopbackNames
  · exact ⟨v, [], by simp [he, hl, knows], .refl _, .inr (.inl hl), id⟩
  · obtain ⟨found, v', es, hrun, hnames, hg, hfound⟩ := names_run w v
    refine ⟨v', es, ?_, hg, .inr (.inr (by rw [hnames]; rfl)), fun h => ?_⟩
    · simp only [he, hl, List.contains_iff_mem, if_false]
      rw [Act.run_bind_of_ok hrun]
      simp [knows, he, hl, hnames]
    · intro known hknown
      rw [← Option.some.inj (hnames.symm.trans hknown)]
      exact hfound h

/-- Whether a query of a host is answered `b`, whatever has become of the machine. -/
def Says (i : Identity) (host : String) (b : Bool) : Prop :=
  ∀ world, ((isLocal w (some host)).run ⟨world, i⟩).result = .ok b

/-- An identity says of a host what it can only come to know of it. -/
theorem says_of_grows {i : Identity} {host : String} {b : Bool}
    (h : ∀ j, i.Grows j → j.knows host = b) : i.Says w host b := by
  intro world
  obtain ⟨v', es, hrun, hg, -⟩ := isLocal_run w host ⟨world, i⟩
  rw [hrun, h _ hg]

end Identity

/-! ## The identities of a session -/

/-- The identities that a session goes by. -/
structure Views where
  /-- The one by which calls are sent to this machine or to another. -/
  dispatcher : Identity
  /-- The one by which a sequence looks for its hosts on this machine. -/
  sequence : Identity

namespace Views

/-- `n` is what `v` is or may become. -/
def Grows (v n : Views) : Prop :=
  v.dispatcher.Grows n.dispatcher ∧ v.sequence.Grows n.sequence

theorem Grows.refl (v : Views) : v.Grows v := ⟨.refl _, .refl _⟩

theorem Grows.trans {u v n : Views} (h₁ : u.Grows v) (h₂ : v.Grows n) : u.Grows n :=
  ⟨h₁.1.trans h₂.1, h₁.2.trans h₂.2⟩

end Views

namespace Session

variable {σ : Type} (w : World σ) (host : String) (s : Session σ)

/-- The identities that a session goes by. -/
def views (s : Session σ) : Views := ⟨s.identity, s.ownIdentity.getD s.identity⟩

/-- A query of the dispatcher's identity. -/
theorem asking_run : ∃ world identity es,
    (asking (Identity.isLocal w (some host))).run s =
      ⟨.ok (identity.knows host), { s with world := world, identity := identity }, es⟩ ∧
    s.views.Grows ({ s with world := world, identity := identity } : Session σ).views ∧
    identity.Settles host := by
  obtain ⟨v', es, hrun, hg, hs, -⟩ := Identity.isLocal_run w host ⟨s.world, s.identity⟩
  refine ⟨v'.world, v'.identity, es, ?_, ⟨hg, ?_⟩, hs⟩
  · rw [asking, Act.run_zoom, hrun]
  · unfold views
    rcases s.ownIdentity with _ | own
    · exact hg
    · exact .refl own

/-- A query of the identity by which a sequence looks for its hosts. -/
theorem askingOwn_run : ∃ s' es,
    (askingOwn (Identity.isLocal w (some host))).run s =
      ⟨.ok (s'.views.sequence.knows host), s', es⟩ ∧
    s.views.Grows s'.views ∧ s'.views.sequence.Settles host ∧ s'.poolOpen = s.poolOpen := by
  obtain ⟨v', es, hrun, hg, hs, -⟩ :=
    Identity.isLocal_run w host ⟨s.world, s.ownIdentity.getD s.identity⟩
  rw [askingOwn, Act.run_zoom, hrun]
  rcases ho : s.ownIdentity with _ | own
  · rw [ho] at hg
    refine ⟨{ s with world := v'.world, identity := v'.identity }, es, ?_, ⟨hg, ?_⟩, ?_, rfl⟩
    · simp [views, ho]
    · simpa [views, ho] using hg
    · simpa [views, ho] using hs
  · rw [ho] at hg
    refine ⟨{ s with world := v'.world, ownIdentity := some v'.identity }, es, ?_, ⟨?_, ?_⟩,
      hs, rfl⟩
    · simp [views]
    · exact .refl _
    · simpa [views, ho] using hg

end Session

end ServerFleet
