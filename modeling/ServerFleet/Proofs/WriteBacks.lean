import ServerFleet.Proofs.Mirrors
import ServerFleet.Proofs.Shelves

/-!
# Inferences overwrite nothing

What was inferred is written when it is applied, which may be long after the store was
resolved. A file that exists by then is left alone, whatever it holds; a file that is missing
is written; and no other file is touched. So to apply it again does nothing.

* `applyWrite_cases`: one write is done or not;
* `Applied`: what is known once some writes are applied, and `applied_of_each` that it is;
* `writeBacks_keep`: a resolution of any state, applied in any state.
-/

namespace ServerFleet

namespace Resolution

variable {σ : Type} {store : Store σ} {shelf : Shelf store} {s s' s'' : σ} {p : PendingWrite}

/-! ## One write -/

/-- A write is left out where its file exists, and done where it does not. -/
theorem applyWrite_cases {u : Unit} {es : List Event}
    (hrun : (applyWrite store p).run s = ⟨.ok u, s', es⟩) :
    (store.has s p.file = .ok true ∧ s' = s) ∨
      (store.has s p.file = .ok false ∧ store.write s p.file p.hosts = (.ok (), s')) := by
  cases hhas : store.has s p.file with
  | error e =>
    rw [applyWrite, Act.run_bind_of_error (ask_run s hhas)] at hrun
    cases hrun
  | ok here =>
    cases here with
    | true =>
      rw [applyWrite, Act.run_bind_of_ok (ask_run s hhas)] at hrun
      exact .inl ⟨rfl, (Ran.mk.inj hrun).2.1.symm⟩
    | false => exact .inr ⟨rfl, applyWrite_run hhas hrun⟩

/-- A write whose file exists is left out without a word. -/
theorem applyWrite_of_has (hhas : store.has s p.file = .ok true) :
    (applyWrite store p).run s = ⟨.ok (), s, []⟩ := by
  rw [applyWrite, Act.run_bind_of_ok (ask_run s hhas)]
  rfl

/-- A write whose file is missing is done. -/
theorem applyWrite_of_missing (hhas : store.has s p.file = .ok false)
    (hw : store.write s p.file p.hosts = (.ok (), s')) :
    (applyWrite store p).run s = ⟨.ok (), s', [.log .info ("Defaulting " ++ p.role.name ++ " to " ++
      ", ".intercalate p.hosts ++ " and saving it to '" ++ p.file ++ "'")]⟩ := by
  have hwrite : (write store p.file p.hosts).run s = ⟨.ok (), s', []⟩ := by
    rw [write, Act.run_consult, hw]
  rw [applyWrite, Act.run_bind_of_ok (ask_run s hhas), if_neg Bool.false_ne_true,
    Act.run_bind_of_ok (Act.run_log ..), hwrite]
  rfl

/-! ## Any number of writes -/

/-- What is known of the files once some writes are applied: those that were there are kept,
those that were missing are written, and the others stay as they were. -/
structure Applied (shelf : Shelf store) (pending : List PendingWrite) (s s' : σ) : Prop where
  kept : ∀ k c, shelf.file? s k = some c → shelf.file? s' k = some c
  filled : ∀ p ∈ pending, shelf.file? s (shelf.key p.file) = none →
    shelf.file? s' (shelf.key p.file) = some (shelf.content p.hosts)
  others : ∀ k, (∀ p ∈ pending, k ≠ shelf.key p.file) → shelf.file? s' k = shelf.file? s k
  has : ∀ p ∈ pending, store.has s' p.file = .ok true
  stays : ∀ f ∈ roleFiles, store.has s f = .ok true → store.has s' f = .ok true
  sound : shelf.Sound s'

theorem Applied.nil (hs : shelf.Sound s) : Applied shelf [] s s where
  kept _ _ h := h
  filled := by simp
  others _ _ := rfl
  has := by simp
  stays _ _ h := h
  sound := hs

/-- One write first, and then others, of other files. -/
theorem Applied.cons {pending : List PendingWrite} (h : Applied shelf [p] s s')
    (h' : Applied shelf pending s' s'') (hfile : p.file ∈ roleFiles)
    (hfiles : ∀ q ∈ pending, shelf.key q.file ≠ shelf.key p.file) :
    Applied shelf (p :: pending) s s'' where
  kept k c hk := h'.kept k c (h.kept k c hk)
  filled := by
    rintro q (_ | ⟨_, hq⟩) hmissing
    · exact h'.kept _ _ (h.filled p (List.mem_singleton_self p) hmissing)
    · refine h'.filled q hq ?_
      rw [h.others _ (by simpa using hfiles q hq), hmissing]
  others k hk := by
    obtain ⟨hp, hpending⟩ := List.forall_mem_cons.mp hk
    rw [h'.others k hpending, h.others k (by simpa using hp)]
  has := by
    rintro q (_ | ⟨_, hq⟩)
    · exact h'.stays _ hfile (h.has p (List.mem_singleton_self p))
    · exact h'.has q hq
  stays f hf hhas := h'.stays f hf (h.stays f hf hhas)
  sound := h'.sound

theorem applied_of_applyWrite {u : Unit} {es : List Event} (hfile : p.file ∈ roleFiles)
    (hs : shelf.Sound s) (hrun : (applyWrite store p).run s = ⟨.ok u, s', es⟩) :
    Applied shelf [p] s s' := by
  rcases applyWrite_cases hrun with ⟨hhas, rfl⟩ | ⟨hhas, hw⟩
  · obtain ⟨c, hc, -⟩ := shelf.read hfile hhas
    refine { Applied.nil hs with filled := ?_, has := ?_, others := fun _ _ => rfl }
    · intro q hq hmissing
      rw [List.mem_singleton.mp hq, hc] at hmissing
      cases hmissing
    · intro q hq
      rwa [List.mem_singleton.mp hq]
  · have hmissing := shelf.missing hfile hw hs hhas
    constructor
    · intro k c hk
      have hne : k ≠ shelf.key p.file := by
        rintro rfl
        rw [hmissing] at hk
        cases hk
      rw [shelf.others hfile hw hne, hk]
    · intro q hq _
      rw [List.mem_singleton.mp hq, shelf.written hfile hw]
    · exact fun k hk => shelf.others hfile hw (hk p (List.mem_singleton_self p))
    · intro q hq
      rw [List.mem_singleton.mp hq, shelf.has hfile hw]
    · exact fun f hf => shelf.stays hfile hf hw
    · exact shelf.sound hfile hw hs

/-- Writes of distinct files that are applied to the end. -/
theorem applied_of_each {pending : List PendingWrite} {done : List Unit} {es : List Event}
    (hfiles : ∀ p ∈ pending, p.file ∈ roleFiles) (hdistinct : (pending.map (·.file)).Nodup)
    (hs : shelf.Sound s)
    (hrun : (Act.each (applyWrite store) pending).run s = ⟨.ok done, s', es⟩) :
    Applied shelf pending s s' := by
  induction pending generalizing s done es with
  | nil =>
    obtain rfl : s = s' := congrArg Ran.state hrun
    exact .nil hs
  | cons p pending ih =>
    obtain ⟨hp, hpending⟩ := List.forall_mem_cons.mp hfiles
    obtain ⟨hfresh, hdistinct⟩ := List.nodup_cons.mp hdistinct
    obtain ⟨_, s₁, _, _, _, hfirst, hrest, -, -⟩ := Act.run_each_cons_eq_ok hrun
    have happlied := applied_of_applyWrite hp hs hfirst
    refine happlied.cons (ih hpending hdistinct happlied.sound hrest) hp fun q hq hkey => ?_
    have hsame : q.file = p.file := shelf.key_inj (hpending q hq) hp hkey
    exact hfresh (List.mem_map.mpr ⟨q, hq, hsame⟩)

/-- Writes whose files exist are left out. -/
theorem each_applyWrite_of_has {pending : List PendingWrite}
    (hhas : ∀ p ∈ pending, store.has s p.file = .ok true) :
    (Act.each (applyWrite store) pending).run s = ⟨.ok (pending.map fun _ => ()), s, []⟩ := by
  induction pending with
  | nil => rfl
  | cons p pending ih =>
    obtain ⟨hp, hpending⟩ := List.forall_mem_cons.mp hhas
    exact Act.run_each_cons (applyWrite_of_has hp) (ih hpending)

/-! ## What is pending -/

theorem pending_of_resolveInferable {role : Role} {first : Option String} {hosts : List String}
    {pending : List PendingWrite} (h : resolveInferable store s role first = .ok (hosts, pending)) :
    ∀ p ∈ pending, p.role = role ∧ p.file = role.hostsFile ∧
      ∃ host, first = some host ∧ p.hosts = [host] := by
  rcases resolveInferable_cases h with ⟨-, -, rfl⟩ | ⟨-, host, hfirst, -, rfl⟩
  · simp
  · intro p hp
    obtain rfl := List.mem_singleton.mp hp
    exact ⟨rfl, rfl, host, hfirst, rfl⟩

/-- What is pending gives tracers or garbage collectors the first coordinator. -/
theorem pending_of_resolve {r : Resolution} (h : resolve store s = .ok r) :
    ∀ p ∈ r.pending, p.role ∈ [Role.tracer, .garbageCollector] ∧ p.file = p.role.hostsFile ∧
      ∃ host, r.topology.coordinators.head? = some host ∧ p.hosts = [host] := by
  obtain ⟨-, -, -, tracers, collectors, ht, hc, hpending⟩ := resolve_eq_ok_iff.mp h
  rw [hpending]
  refine List.forall_mem_append.mpr ⟨fun p hp => ?_, fun p hp => ?_⟩
  · obtain ⟨hrole, hfile, hhost⟩ := pending_of_resolveInferable ht p hp
    exact ⟨by simp [hrole], by rw [hfile, hrole], hhost⟩
  · obtain ⟨hrole, hfile, hhost⟩ := pending_of_resolveInferable hc p hp
    exact ⟨by simp [hrole], by rw [hfile, hrole], hhost⟩

/-! ## Applying a resolution -/

theorem applyPending_run (r : Resolution) (s : σ) :
    (applyPending store r).run s =
      ⟨(fun _ => ()) <$> ((Act.each (applyWrite store) r.pending).run s).result,
        ((Act.each (applyWrite store) r.pending).run s).state,
        ((Act.each (applyWrite store) r.pending).run s).events⟩ := by
  rw [applyPending, bind_pure_comp, Act.run_map]

/-- Nothing that exists is overwritten. What a resolution of any state left pending may be
applied in any other state that is sound, as every later one is unless a directory is gone
(`DirectoryStore.sound_of_resolve`). If that returns, then every file that was there holds what
it held, every file that was missing holds the first coordinator if it was pending, for tracers
or garbage collectors, and there are no others; and to apply it again returns and does nothing.
Where a store is not resolved, to load it leaves it as it is. -/
theorem writeBacks_keep (shelf : Shelf store) :
    (∀ {r : Resolution} {s₀ s s' : σ} {es : List Event}, resolve store s₀ = .ok r →
      shelf.Sound s → (applyPending store r).run s = ⟨.ok (), s', es⟩ →
      (∀ k c, shelf.file? s k = some c → shelf.file? s' k = some c) ∧
      (∀ p ∈ r.pending, shelf.file? s (shelf.key p.file) = none →
        shelf.file? s' (shelf.key p.file) = some (shelf.content p.hosts)) ∧
      (∀ k, (∀ p ∈ r.pending, k ≠ shelf.key p.file) → shelf.file? s' k = shelf.file? s k) ∧
      (∀ p ∈ r.pending, p.role ∈ [Role.tracer, .garbageCollector] ∧ p.file = p.role.hostsFile ∧
        ∃ host, r.topology.coordinators.head? = some host ∧ p.hosts = [host] ∧
          shelf.lines (shelf.content p.hosts) = .ok [host]) ∧
      (applyPending store r).run s' = ⟨.ok (), s', []⟩) ∧
    ∀ {s : σ} {e : Failure}, resolve store s = .error e →
      (load store).run s = ⟨.error e, s, []⟩ := by
  refine ⟨fun {r s₀ s s' es} hr hs hrun => ?_, load_of_error⟩
  have hpending := pending_of_resolve hr
  have hfiles : ∀ p ∈ r.pending, p.file ∈ roleFiles := fun p hp => by
    rw [(hpending p hp).2.1]
    exact hostsFile_mem_roleFiles _
  rw [applyPending_run] at hrun
  rcases heach : (Act.each (applyWrite store) r.pending).run s with ⟨e | done, s₁, es₁⟩
  · rw [heach] at hrun
    cases hrun
  rw [heach] at hrun
  obtain rfl : s₁ = s' := congrArg Ran.state hrun
  have happlied : Applied shelf r.pending s s₁ :=
    applied_of_each hfiles (nodup_of_resolve hr) hs heach
  refine ⟨happlied.kept, happlied.filled, happlied.others, fun p hp => ?_, ?_⟩
  · obtain ⟨hrole, hfile, host, hfirst, hhosts⟩ := hpending p hp
    obtain ⟨host', hhosts', hnamed⟩ := (due_of_resolve hr p hp).named
    obtain rfl : host' = host := by simpa [hhosts] using hhosts'.symm
    exact ⟨hrole, hfile, _, hfirst, hhosts, by rw [hhosts, shelf.lines_named hnamed]⟩
  · rw [applyPending_run, each_applyWrite_of_has happlied.has]
    rfl

/-- The tracers' file is written by hand, and that of the coordinators is taken away, before
what was inferred of it is applied. -/
theorem writeBacks_keep_edited :
    let dir : Path := ⟨0, ["conf"]⟩
    let stated : List (Place × Node) :=
      [(["conf"], .directory), (["conf", "tservers"], .file (DirectoryStore.bytesOf ["w"]))]
    let t₀ : FileTree := ⟨stated ++ [(["conf", "managers"], .file (DirectoryStore.bytesOf ["m"]))]⟩
    let t : FileTree := ⟨stated ++ [(["conf", "tracers"], .file (DirectoryStore.bytesOf ["t"]))]⟩
    ∃ r t' es, resolve (DirectoryStore.store dir) t₀ = .ok r ∧
      (applyPending (DirectoryStore.store dir) r).run t = ⟨.ok (), t', es⟩ ∧
      t'.file? ["conf", "tracers"] = some (DirectoryStore.bytesOf ["t"]) ∧
      t'.file? ["conf", "gc"] = some (DirectoryStore.bytesOf ["m"]) ∧
      t'.file? ["conf", "managers"] = none ∧
      (applyPending (DirectoryStore.store dir) r).run t' = ⟨.ok (), t', []⟩ := by
  intro dir stated t₀ t
  let m : MemoryStore := { files := [("tservers", ["w"]), ("managers", ["m"])] }
  have hm : m.Unbroken := by
    intro file _ lines hlines l hl
    have hmem : (file, lines) ∈ m.files := by
      obtain ⟨f, hfound, rfl⟩ := Option.map_eq_some_iff.mp hlines
      have hname : f.1 = file := by simpa using List.find?_some hfound
      exact hname ▸ List.mem_of_find?_eq_some hfound
    have hall : ∀ f ∈ m.files, ∀ l ∈ f.2, Text.Unbroken l := by decide
    exact hall _ hmem l hl
  have hheld : DirectoryStore.Holds dir m t₀ := by
    intro file hf
    have hnames : file ∈ ["managers", "tservers", "gc", "monitor", "tracers", "masters",
      "slaves"] := hf
    simp only [List.mem_cons, List.not_mem_nil, or_false] at hnames
    rcases hnames with rfl | rfl | rfl | rfl | rfl | rfl | rfl <;> rfl
  let r : Resolution := ⟨⟨["w"], ["m"], "m", ["m"], ["m"]⟩,
    [⟨.tracer, "tracers", ["m"]⟩, ⟨.garbageCollector, "gc", ["m"]⟩], []⟩
  have hr : resolve (DirectoryStore.store dir) t₀ = .ok r :=
    (resolve_congr fun file hf => hheld.alike hm hf).trans rfl
  have hs : DirectoryStore.Sound dir t :=
    ⟨FileTree.rooted_of_nodes (by decide), fun h => absurd h (by decide)⟩
  -- One of the writes is left out and the other is done.
  let t' := t.put ["conf", "gc"] (.file (DirectoryStore.bytesOf ["m"]))
  have hleft : (applyWrite (DirectoryStore.store dir) ⟨.tracer, "tracers", ["m"]⟩).run t =
      ⟨.ok (), t, []⟩ := applyWrite_of_has rfl
  obtain ⟨es, hdone⟩ : ∃ es, (applyWrite (DirectoryStore.store dir)
      ⟨.garbageCollector, "gc", ["m"]⟩).run t = ⟨.ok (), t', es⟩ :=
    ⟨_, applyWrite_of_missing rfl rfl⟩
  have hrun : (applyPending (DirectoryStore.store dir) r).run t = ⟨.ok (), t', es ++ []⟩ := by
    rw [applyPending_run, Act.each, Act.run_bind_of_ok hleft, Act.run_map, Act.each,
      Act.run_bind_of_ok hdone]
    rfl
  obtain ⟨hkept, hfilled, hothers, -, hagain⟩ :=
    (writeBacks_keep (DirectoryStore.shelf dir)).1 hr hs hrun
  refine ⟨r, t', _, hr, hrun, hkept ["conf", "tracers"] _ rfl, ?_, ?_, hagain⟩
  · exact hfilled ⟨.garbageCollector, "gc", ["m"]⟩ (by decide) rfl
  · have hother : ∀ p ∈ r.pending, ["conf", "managers"] ≠ DirectoryStore.placeOf dir p.file := by
      decide
    exact hothers ["conf", "managers"] hother

end Resolution

end ServerFleet
