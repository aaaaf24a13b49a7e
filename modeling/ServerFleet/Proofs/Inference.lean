import ServerFleet.Proofs.Directories
import ServerFleet.Store.Memory
import ServerFleet.Topology.Resolution

/-!
# Inferences are kept

A host that stood in for the tracers or the garbage collectors is written when the
topology is loaded, and from then on it is read from its file. It is read as it was
written, because it was read before: nothing is left of it to strip, and no line break is
in it. What the other files say later does not matter.

`Alike` compares files by what resolving asks of them. `Steady` is what the argument needs
of a store; both kinds of store have it (`Source.steady`).

* `resolve_congr`: files that are alike give the same topology;
* `each_applyWrite_settles`: what was pending is in its file, and the other files stay;
* `settled_of_load`: tracers and garbage collectors are read from files after loading;
* `load_sticky`: loading again changes nothing, nor do changes to the other files.
-/

namespace ServerFleet

namespace Resolution

variable {σ ρ : Type} {store : Store σ} {store' : Store ρ} {s : σ} {s' : ρ}

/-- The files of every role, by their present and their former names. -/
def roleFiles : List String := hostsFiles ++ legacyFiles

theorem hostsFile_mem_roleFiles (role : Role) : role.hostsFile ∈ roleFiles :=
  List.mem_append_left _ (List.mem_map_of_mem (Role.mem_all role))

/-- The files that loading may write. -/
def inferredFiles : List String := [Role.tracer.hostsFile, Role.garbageCollector.hostsFile]

/-- The files that loading only reads. -/
def statedFiles : List String := roleFiles.filter (· ∉ inferredFiles)

/-! ## Files that are alike -/

/-- A file is there in both states or in neither, and is read alike if it is there. -/
structure Alike (store : Store σ) (s : σ) (store' : Store ρ) (s' : ρ) (file : String) : Prop where
  has : store'.has s' file = store.has s file
  read : store.has s file = .ok true → store'.read s' file = store.read s file

theorem Alike.refl (store : Store σ) (s : σ) (file : String) : Alike store s store s file :=
  ⟨rfl, fun _ => rfl⟩

theorem Alike.trans {s₁ s₂ : σ} {file : String} (h₁ : Alike store s store s₁ file)
    (h₂ : Alike store s₁ store s₂ file) : Alike store s store s₂ file where
  has := h₂.has.trans h₁.has
  read hhas := (h₂.read (h₁.has.trans hhas)).trans (h₁.read hhas)

theorem Alike.readHosts {file : String} (h : Alike store s store' s' file)
    (hhas : store.has s file = .ok true) :
    readHosts store' s' file = readHosts store s file := by
  rw [Resolution.readHosts, h.read hhas, Resolution.readHosts]

/-- What depends on whether a file is there, and on its lines if it is. -/
theorem Alike.branch {α : Type} {file : String} (h : Alike store s store' s' file)
    {a b a' b' : Except Failure α} (hthere : store.has s file = .ok true → a' = a)
    (hmissing : b' = b) :
    (store'.has s' file >>= fun here => if here then a' else b') =
      (store.has s file >>= fun here => if here then a else b) := by
  rw [h.has, hmissing]
  cases hhas : store.has s file with
  | error e => rfl
  | ok here => cases here with
    | false => rfl
    | true => exact hthere hhas

section Congruence

variable (h : ∀ file ∈ statedFiles, Alike store s store' s' file)

include h

theorem resolveWorkers_congr : resolveWorkers store' s' = resolveWorkers store s := by
  have hlegacy := h "slaves" (by decide)
  have hcurrent := h Role.worker.hostsFile (by decide)
  refine hlegacy.branch (fun _ => rfl) (hcurrent.branch (fun hhas => ?_) rfl)
  rw [hcurrent.readHosts hhas]

theorem resolveCoordinators_congr :
    resolveCoordinators store' s' = resolveCoordinators store s := by
  have hcurrent := h Role.coordinator.hostsFile (by decide)
  have hlegacy := h "masters" (by decide)
  refine hcurrent.branch (fun hhas => ?_) (hlegacy.branch (fun hhas => ?_) rfl)
  · rw [hcurrent.readHosts hhas]
  · exact congrArg (· >>= fun hosts => pure (hosts, _)) (hlegacy.readHosts hhas)

theorem resolveMonitor_congr (first : Option String) :
    resolveMonitor store' s' first = resolveMonitor store s first := by
  have hfile := h Role.monitor.hostsFile (by decide)
  refine hfile.branch (fun hhas => ?_) rfl
  rw [hfile.readHosts hhas]

end Congruence

theorem resolveInferable_congr {role : Role} (h : Alike store s store' s' role.hostsFile)
    (first : Option String) :
    resolveInferable store' s' role first = resolveInferable store s role first := by
  refine h.branch (fun hhas => ?_) rfl
  rw [h.readHosts hhas]

/-- Files that are alike give the same topology. -/
theorem resolve_congr (h : ∀ file ∈ roleFiles, Alike store s store' s' file) :
    resolve store' s' = resolve store s := by
  have hstated : ∀ file ∈ statedFiles, Alike store s store' s' file :=
    fun file hf => h file (List.mem_filter.mp hf).1
  have htracer := h Role.tracer.hostsFile (by decide)
  have hcollector := h Role.garbageCollector.hostsFile (by decide)
  simp only [resolve, resolveWorkers_congr hstated, resolveCoordinators_congr hstated,
    resolveMonitor_congr hstated, resolveInferable_congr htracer, resolveInferable_congr hcollector]

/-! ## What resolving says -/

/-- Nothing is left to strip of a host. -/
theorem hostOfLine?_host {line host : String} (h : hostOfLine? line = some host) :
    hostOfLine? host = some host := by
  simp only [hostOfLine?, Option.ite_none_left_eq_some, Option.some.injEq] at h
  obtain ⟨hkept, rfl⟩ := h
  have hstrip : Text.strip (Text.strip line) = Text.strip line := by
    rw [Text.strip, Text.toList_strip, Text.trim_trim]
    rfl
  rw [hostOfLine?, hstrip, if_neg hkept]

/-- A host that a file of the store names. -/
def Named (store : Store σ) (host : String) : Prop :=
  ∃ s file lines, store.read s file = .ok lines ∧ host ∈ parseHosts lines

theorem Named.parseHosts {host : String} (h : Named store host) :
    parseHosts [host] = [host] := by
  obtain ⟨-, -, lines, -, hmem⟩ := h
  obtain ⟨line, -, hhost⟩ := mem_parseHosts.mp hmem
  simp [ServerFleet.parseHosts, hostOfLine?_host hhost]

theorem readHosts_eq_ok {file : String} {hosts : List String}
    (h : readHosts store s file = .ok hosts) :
    ∃ lines, store.read s file = .ok lines ∧ parseHosts lines = hosts := by
  cases hread : store.read s file with
  | error e => rw [readHosts, hread] at h; cases h
  | ok lines => rw [readHosts, hread] at h; exact ⟨lines, rfl, Except.ok.inj h⟩

theorem named_of_readHosts {file host : String} {hosts : List String}
    (h : readHosts store s file = .ok hosts) (hmem : host ∈ hosts) : Named store host := by
  obtain ⟨lines, hread, rfl⟩ := readHosts_eq_ok h
  exact ⟨s, file, lines, hread, hmem⟩

/-- The workers are listed under the present name of their file. -/
theorem has_of_resolveWorkers {hosts : List String} (h : resolveWorkers store s = .ok hosts) :
    store.has s Role.worker.hostsFile = .ok true := by
  obtain ⟨legacy, -, h⟩ := bind_eq_ok h
  cases legacy with
  | true => cases h
  | false =>
    obtain ⟨here, hhere, h⟩ := bind_eq_ok h
    cases here with
    | true => exact hhere
    | false => cases h

theorem named_of_resolveCoordinators {hosts warnings : List String}
    (h : resolveCoordinators store s = .ok (hosts, warnings)) :
    ∀ host ∈ hosts, Named store host := by
  obtain ⟨current, -, h⟩ := bind_eq_ok h
  cases current with
  | true =>
    obtain ⟨hosts', hread, h⟩ := bind_eq_ok h
    cases h
    exact fun host hmem => named_of_readHosts hread hmem
  | false =>
    obtain ⟨legacy, -, h⟩ := bind_eq_ok h
    cases legacy with
    | true =>
      obtain ⟨hosts', hread, h⟩ := bind_eq_ok h
      cases h
      exact fun host hmem => named_of_readHosts hread hmem
    | false =>
      cases h
      exact fun host hmem => nomatch hmem

/-- The hosts of a role are in its file, or are to be written there. -/
theorem resolveInferable_cases {role : Role} {first : Option String} {hosts : List String}
    {pending : List PendingWrite} (h : resolveInferable store s role first = .ok (hosts, pending)) :
    (store.has s role.hostsFile = .ok true ∧ readHosts store s role.hostsFile = .ok hosts ∧
      pending = []) ∨
    (store.has s role.hostsFile = .ok false ∧ ∃ host, first = some host ∧ hosts = [host] ∧
      pending = [⟨role, role.hostsFile, [host]⟩]) := by
  obtain ⟨here, hhere, h⟩ := bind_eq_ok h
  cases here with
  | true =>
    obtain ⟨hosts', hread, h⟩ := bind_eq_ok h
    cases h
    exact .inl ⟨hhere, hread, rfl⟩
  | false =>
    obtain ⟨host, hstand, h⟩ := bind_eq_ok h
    cases h
    cases first with
    | none => cases hstand
    | some first =>
      cases hstand
      exact .inr ⟨hhere, _, rfl, rfl, rfl⟩

/-- The parts that a topology is put together from, and that all of them are read. -/
theorem resolve_eq_ok_iff {r : Resolution} : resolve store s = .ok r ↔
    resolveWorkers store s = .ok r.topology.workers ∧
    resolveCoordinators store s = .ok (r.topology.coordinators, r.warnings) ∧
    resolveMonitor store s r.topology.coordinators.head? = .ok r.topology.monitor ∧
    ∃ tracers collectors,
      resolveInferable store s .tracer r.topology.coordinators.head? =
        .ok (r.topology.tracers, tracers) ∧
      resolveInferable store s .garbageCollector r.topology.coordinators.head? =
        .ok (r.topology.garbageCollectors, collectors) ∧
      r.pending = tracers ++ collectors := by
  constructor
  · intro h
    obtain ⟨workers, hworkers, h⟩ := bind_eq_ok h
    obtain ⟨⟨coordinators, warnings⟩, hcoordinators, h⟩ := bind_eq_ok h
    obtain ⟨monitor, hmonitor, h⟩ := bind_eq_ok h
    obtain ⟨⟨tracers, pendingTracers⟩, htracers, h⟩ := bind_eq_ok h
    obtain ⟨⟨collectors, pendingCollectors⟩, hcollectors, h⟩ := bind_eq_ok h
    cases h
    exact ⟨hworkers, hcoordinators, hmonitor, _, _, htracers, hcollectors, rfl⟩
  · rintro ⟨hworkers, hcoordinators, hmonitor, tracers, collectors, htracers, hcollectors, hpending⟩
    obtain ⟨topology, pending, warnings⟩ := r
    subst hpending
    rw [resolve, hworkers]
    show (resolveCoordinators store s >>= _) = _
    rw [hcoordinators]
    show (resolveMonitor store s _ >>= _) = _
    rw [hmonitor]
    show (resolveInferable store s .tracer _ >>= _) = _
    rw [htracers]
    show (resolveInferable store s .garbageCollector _ >>= _) = _
    rw [hcollectors]
    rfl

/-- The hosts of a role are in its file. -/
structure Settled (store : Store σ) (s : σ) (role : Role) (hosts : List String) : Prop where
  has : store.has s role.hostsFile = .ok true
  read : readHosts store s role.hostsFile = .ok hosts

theorem Settled.alike {role : Role} {hosts : List String} (h : Settled store s role hosts)
    (halike : Alike store s store' s' role.hostsFile) : Settled store' s' role hosts where
  has := halike.has.trans h.has
  read := (halike.readHosts h.has).trans h.read

/-- Nothing is inferred for a role that is settled, whatever the coordinators are. -/
theorem Settled.resolveInferable {role : Role} {hosts : List String}
    (h : Settled store s role hosts) (first : Option String) :
    resolveInferable store s role first = .ok (hosts, []) := by
  rw [Resolution.resolveInferable, h.has]
  show (readHosts store s role.hostsFile >>= _) = _
  rw [h.read]
  rfl

/-- Nothing is pending where tracers and garbage collectors are settled, and they are the
roles' hosts. -/
theorem pending_of_settled {r : Resolution} {tracers collectors : List String}
    (htracers : Settled store s .tracer tracers)
    (hcollectors : Settled store s .garbageCollector collectors) (h : resolve store s = .ok r) :
    r.pending = [] ∧ r.topology.tracers = tracers ∧ r.topology.garbageCollectors = collectors := by
  obtain ⟨-, -, -, pt, pc, ht, hc, hpending⟩ := resolve_eq_ok_iff.mp h
  rw [htracers.resolveInferable] at ht
  rw [hcollectors.resolveInferable] at hc
  cases ht
  cases hc
  exact ⟨hpending, rfl, rfl⟩

/-! ## Stores whose files stay as they were written -/

/-- Some hosts file is there. -/
def Standing (store : Store σ) (s : σ) : Prop := ∃ file ∈ roleFiles, store.has s file = .ok true

/-- What writing means for a store in which some hosts file is there: a host that was read
from a file is read from the file it is written to, and the other files stay. -/
structure Steady (store : Store σ) : Prop where
  written {s s' : σ} {file host : String} : Standing store s → file ∈ roleFiles → Named store host →
    store.write s file [host] = (.ok (), s') →
    store.has s' file = .ok true ∧ store.read s' file = .ok [host]
  others {s s' : σ} {file other : String} {lines : List String} : Standing store s →
    file ∈ roleFiles → other ∈ roleFiles → other ≠ file → store.write s file lines = (.ok (), s') →
    Alike store s store s' other

end Resolution

open Resolution

namespace MemoryStore

variable {m m' : MemoryStore} {file other : String}

theorem alike_of_lines? (h : m'.lines? file = m.lines? file) : Alike store m store m' file where
  has := by simp only [store, h]
  read _ := by simp only [store, h]

/-- To take a file away leaves the others as they are. -/
theorem alike_of_remove (h : m.remove file = .ok m') (hne : other ≠ file) :
    Alike store m store m' other := by
  rw [remove] at h
  split at h
  · cases h
    refine alike_of_lines? (congrArg (Option.map _) ?_)
    rw [List.find?_filter]
    refine congrArg (List.find? · m.files) (funext fun f => ?_)
    by_cases hf : f.1 = other <;> simp [hf, hne]
  · cases h

theorem alike_of_write (lines : List String) (hne : other ≠ file) :
    Alike store m store (m.write file lines) other :=
  alike_of_lines? (by rw [lines?_write, if_neg hne])

/-- The store in memory has the lines that were written last. -/
theorem steady : Steady store where
  written {m m' file host} _ _ _ hw := by
    obtain rfl : m.write file [host] = m' := (Prod.mk.inj hw).2
    simp [store, lines?_write]
  others {m m' file other lines} _ _ _ hne hw := by
    obtain rfl : m.write file lines = m' := (Prod.mk.inj hw).2
    exact alike_of_write lines hne

end MemoryStore

namespace DirectoryStore

/-- The hosts files are files of any directory. -/
theorem plain_of_mem_roleFiles {file : String} (h : file ∈ roleFiles) : Plain file := by
  have hall : ∀ f ∈ roleFiles, Path.parse f = ⟨0, [f]⟩ ∧ f.toList.contains '\x00' = false ∧
      f.utf8ByteSize ≤ FileTree.maxNameLength ∧ f ≠ ".." := by decide
  obtain ⟨hparse, hnull, hshort, habove⟩ := hall file h
  exact ⟨hparse, hnull, hshort, habove⟩

/-- The hosts that the files of a directory name hold no line break. -/
theorem unbroken_of_named {dir : Path} {host : String} (h : Named (store dir) host) :
    Text.Unbroken host := by
  obtain ⟨t, file, lines, hread, hmem⟩ := h
  obtain ⟨line, hline, hhost⟩ := mem_parseHosts.mp hmem
  exact Text.unbroken_host (unbroken_of_read hread line hline) hhost

theorem alike_of_at? {dir : Path} {t t' : FileTree} {file : String}
    (h : t'.at? (pathOf dir file) = t.at? (pathOf dir file)) :
    Alike (store dir) t (store dir) t' file :=
  ⟨has_congr h, fun _ => read_congr h⟩

/-- To write any bytes to a file leaves the others as they are. -/
theorem alike_of_write {dir : Path} {t t' : FileTree} {D : Place} {file other : String}
    {bytes : List UInt8} (hD : t.Leads dir D) (hf : file ∈ roleFiles) (ho : other ∈ roleFiles)
    (hne : other ≠ file) (hw : t.write (pathOf dir file) bytes = .ok t') :
    Alike (store dir) t (store dir) t' other :=
  alike_of_at? ((at?_of_write hD (plain_of_mem_roleFiles hf) hw).2 other
    (plain_of_mem_roleFiles ho) hne)

/-- To take a file away leaves the others as they are. -/
theorem alike_of_remove {dir : Path} {t t' : FileTree} {D : Place} {file other : String}
    (hD : t.Leads dir D) (hf : file ∈ roleFiles) (ho : other ∈ roleFiles) (hne : other ≠ file)
    (hr : t.remove (pathOf dir file) = .ok t') : Alike (store dir) t (store dir) t' other :=
  alike_of_at? ((at?_of_remove hD (plain_of_mem_roleFiles hf) hr).2 other
    (plain_of_mem_roleFiles ho) hne)

/-- A directory that has one of the hosts files is there. -/
theorem leads_of_standing {dir : Path} {t : FileTree} (h : Standing (store dir) t) :
    ∃ D, t.Leads dir D ∧ ∃ file, Plain file ∧ Fits dir file := by
  obtain ⟨file, hf, hhas⟩ := h
  obtain ⟨bytes, hat⟩ := has_eq_true_iff.mp hhas
  obtain ⟨hfit, D, hD⟩ := leads_of_at? (plain_of_mem_roleFiles hf) hat
  exact ⟨D, hD, file, plain_of_mem_roleFiles hf, hfit⟩

theorem at?_of_store_write {dir : Path} {t t' : FileTree} {file : String} {lines : List String}
    (h : Standing (store dir) t) (hf : file ∈ roleFiles)
    (hw : (store dir).write t file lines = (.ok (), t')) :
    t'.at? (pathOf dir file) = .ok (some (.file (bytesOf lines))) ∧
      ∀ other ∈ roleFiles, other ≠ file → t'.at? (pathOf dir other) = t.at? (pathOf dir other) := by
  obtain ⟨D, hD, present, hpresent, hfit⟩ := leads_of_standing h
  have hwrite : t.write (pathOf dir file) (bytesOf lines) = .ok t' := by
    rw [show (store dir).write t file lines = t.writeWithin dir (pathOf dir file) (bytesOf lines)
      from rfl, writeWithin_of_leads hD hpresent hfit] at hw
    split at hw
    · rename_i hok
      rw [hok, (Prod.mk.inj hw).2]
    · cases hw
  obtain ⟨hself, hothers⟩ := at?_of_write hD (plain_of_mem_roleFiles hf) hwrite
  exact ⟨hself, fun other ho hne => hothers other (plain_of_mem_roleFiles ho) hne⟩

/-- A host that was read from a file of a directory is read from any file it is written to. -/
theorem steady (dir : Path) : Steady (store dir) where
  written {t t' file host} hstand hf hnamed hw := by
    obtain ⟨hself, -⟩ := at?_of_store_write hstand hf hw
    refine ⟨has_eq_true_iff.mpr ⟨_, hself⟩, (read_of_at? hself).trans (linesOf_bytesOf ?_)⟩
    exact fun l hl => List.mem_singleton.mp hl ▸ unbroken_of_named hnamed
  others {t t' file other lines} hstand hf ho hne hw := by
    obtain ⟨-, hothers⟩ := at?_of_store_write hstand hf hw
    exact alike_of_at? (hothers other ho hne)

end DirectoryStore

namespace Resolution

variable {σ : Type} {store : Store σ}

/-- The stores that topologies are loaded from. -/
inductive Source : {σ : Type} → Store σ → Prop where
  | memory : Source MemoryStore.store
  | directory (dir : Path) : Source (DirectoryStore.store dir)

theorem Source.steady (h : Source store) : Steady store := by
  cases h with
  | memory => exact MemoryStore.steady
  | directory dir => exact DirectoryStore.steady dir

/-! ## Loading -/

/-- A pending write whose file is missing and whose host was read from the store. -/
structure Due (store : Store σ) (s : σ) (p : PendingWrite) : Prop where
  mem : p.file ∈ roleFiles
  missing : store.has s p.file = .ok false
  named : ∃ host, p.hosts = [host] ∧ Named store host

theorem Due.alike {s' : σ} {p : PendingWrite} (h : Due store s p)
    (halike : Alike store s store s' p.file) : Due store s' p where
  mem := h.mem
  missing := halike.has.trans h.missing
  named := h.named

/-- How loading ends a file: it is there with the lines that it was given. -/
structure Written (store : Store σ) (s : σ) (p : PendingWrite) : Prop where
  has : store.has s p.file = .ok true
  read : store.read s p.file = .ok p.hosts

/-- A question is answered as the store answers it, and the store is left alone. -/
theorem ask_run {α : Type} {question : σ → Except Failure α} {answer : Except Failure α} (s : σ)
    (h : question s = answer) : (ask question).run s = ⟨answer, s, []⟩ := by
  rw [ask, Act.run_consult, h]

theorem applyWrite_run {p : PendingWrite} {s s' : σ} {es : List Event} {u : Unit}
    (hmissing : store.has s p.file = .ok false)
    (hrun : (applyWrite store p).run s = ⟨.ok u, s', es⟩) :
    store.write s p.file p.hosts = (.ok (), s') := by
  rw [applyWrite, Act.run_bind_of_ok (ask_run s hmissing)] at hrun
  obtain ⟨hresult, hstate, -⟩ := Ran.mk.inj hrun
  exact Prod.ext hresult hstate

/-- What was pending is in its file once it is applied, and the other files stay. -/
theorem each_applyWrite_settles (hsteady : Steady store) {pending : List PendingWrite} {s s' : σ}
    {done : List Unit} {es : List Event} (hstand : Standing store s)
    (hdue : ∀ p ∈ pending, Due store s p) (hdistinct : (pending.map (·.file)).Nodup)
    (hrun : (Act.each (applyWrite store) pending).run s = ⟨.ok done, s', es⟩) :
    (∀ p ∈ pending, Written store s' p) ∧
      ∀ other ∈ roleFiles, other ∉ pending.map (·.file) → Alike store s store s' other := by
  induction pending generalizing s done es with
  | nil =>
    obtain rfl : s = s' := congrArg Ran.state hrun
    exact ⟨by simp, fun other _ _ => .refl ..⟩
  | cons p pending ih =>
    obtain ⟨hp, hpending⟩ := List.forall_mem_cons.mp hdue
    obtain ⟨hfresh, hdistinct⟩ := List.nodup_cons.mp hdistinct
    obtain ⟨host, hhosts, hnamed⟩ := hp.named
    obtain ⟨_, s₁, _, _, _, hfirst, hrest, -, -⟩ := Act.run_each_cons_eq_ok hrun
    have hwrite := applyWrite_run hp.missing hfirst
    have hothers : ∀ other ∈ roleFiles, other ≠ p.file → Alike store s store s₁ other :=
      fun other ho hne => hsteady.others hstand hp.mem ho hne hwrite
    have hwritten : Written store s₁ p := by
      rw [hhosts] at hwrite
      obtain ⟨hhas, hread⟩ := hsteady.written hstand hp.mem hnamed hwrite
      exact ⟨hhas, hread.trans (congrArg Except.ok hhosts.symm)⟩
    -- The files are distinct, so the first write leaves the others due.
    have hdue₁ : ∀ q ∈ pending, Due store s₁ q := fun q hq => by
      have hne : q.file ≠ p.file := fun same => hfresh (List.mem_map.mpr ⟨q, hq, same⟩)
      exact (hpending q hq).alike (hothers _ (hpending q hq).mem hne)
    -- The store stands by the file that was just written, and the later writes keep it.
    obtain ⟨hsettled, hlater⟩ := ih ⟨p.file, hp.mem, hwritten.has⟩ hdue₁ hdistinct hrest
    constructor
    · rintro q (_ | ⟨_, hq⟩)
      · have halike := hlater p.file hp.mem hfresh
        exact ⟨halike.has.trans hwritten.has, (halike.read hwritten.has).trans hwritten.read⟩
      · exact hsettled q hq
    · intro other ho hnot
      obtain ⟨hne, hnot⟩ : other ≠ p.file ∧ other ∉ pending.map (·.file) := by
        simpa only [List.map_cons, List.mem_cons, not_or] using hnot
      exact (hothers other ho hne).trans (hlater other ho hnot)

theorem each_log_run (level : Level) (texts : List String) (s : σ) :
    (Act.each (Act.log level) texts).run s =
      ⟨.ok (texts.map fun _ => ()), s, texts.map (.log level)⟩ := by
  induction texts with
  | nil => rfl
  | cons text texts ih =>
    exact Act.run_each_cons (Act.run_log level text s) ih

/-- Loading logs the warnings, applies what is pending and gives the topology. -/
theorem load_run {r : Resolution} {s : σ} (h : resolve store s = .ok r) :
    (load store).run s =
      ⟨(fun _ => r.topology) <$> ((Act.each (applyWrite store) r.pending).run s).result,
        ((Act.each (applyWrite store) r.pending).run s).state,
        r.warnings.map (.log .warning) ++
          ((Act.each (applyWrite store) r.pending).run s).events⟩ := by
  rw [load, Act.run_bind_of_ok (ask_run s h),
    Act.run_bind_of_ok (each_log_run .warning r.warnings s)]
  simp only [applyPending, bind_pure_comp, Functor.map_map, Act.run_map, List.nil_append]

theorem named_of_head {s : σ} {coordinators warnings : List String}
    (h : resolveCoordinators store s = .ok (coordinators, warnings)) (first : String)
    (hfirst : coordinators.head? = some first) : Named store first :=
  named_of_resolveCoordinators h first (List.mem_of_head? hfirst)

theorem due_of_resolveInferable {s : σ} {role : Role} {first : Option String}
    {hosts : List String} {pending : List PendingWrite}
    (h : resolveInferable store s role first = .ok (hosts, pending))
    (hnamed : ∀ host, first = some host → Named store host) : ∀ p ∈ pending, Due store s p := by
  rcases resolveInferable_cases h with ⟨-, -, rfl⟩ | ⟨hmissing, host, hfirst, -, rfl⟩
  · simp
  · intro p hp
    obtain rfl := List.mem_singleton.mp hp
    exact ⟨hostsFile_mem_roleFiles role, hmissing, host, rfl, hnamed host hfirst⟩

theorem files_of_resolveInferable {s : σ} {role : Role} {first : Option String}
    {hosts : List String} {pending : List PendingWrite}
    (h : resolveInferable store s role first = .ok (hosts, pending)) :
    pending.map (·.file) = [] ∨ pending.map (·.file) = [role.hostsFile] := by
  rcases resolveInferable_cases h with ⟨-, -, rfl⟩ | ⟨-, host, -, -, rfl⟩
  · exact .inl rfl
  · exact .inr rfl

/-- What is pending is for files that are missing and gives them hosts that were read. -/
theorem due_of_resolve {s : σ} {r : Resolution} (h : resolve store s = .ok r) :
    ∀ p ∈ r.pending, Due store s p := by
  obtain ⟨-, hcoordinators, -, tracers, collectors, ht, hc, hpending⟩ := resolve_eq_ok_iff.mp h
  have hnamed := named_of_head hcoordinators
  rw [hpending]
  exact List.forall_mem_append.mpr
    ⟨due_of_resolveInferable ht hnamed, due_of_resolveInferable hc hnamed⟩

/-- A role is settled once what was pending for it is written. -/
theorem settled_of_resolveInferable {s s' : σ} {role : Role} {first : Option String}
    {hosts : List String} {pending : List PendingWrite}
    (h : resolveInferable store s role first = .ok (hosts, pending))
    (hnamed : ∀ host, first = some host → Named store host)
    (hwritten : ∀ p ∈ pending, Written store s' p)
    (hkept : pending = [] → Alike store s store s' role.hostsFile) :
    Settled store s' role hosts := by
  rcases resolveInferable_cases h with ⟨hhas, hread, rfl⟩ | ⟨-, host, hfirst, rfl, rfl⟩
  · exact Settled.alike ⟨hhas, hread⟩ (hkept rfl)
  · have hself := hwritten _ (List.mem_singleton_self _)
    refine ⟨hself.has, ?_⟩
    rw [readHosts, hself.read]
    exact congrArg Except.ok (hnamed host hfirst).parseHosts

/-- No two writes that are pending are to one file. -/
theorem nodup_of_resolve {r : Resolution} (h : resolve store s = .ok r) :
    (r.pending.map (·.file)).Nodup := by
  obtain ⟨-, -, -, tracers, collectors, ht, hc, hpending⟩ := resolve_eq_ok_iff.mp h
  rw [hpending, List.map_append]
  rcases files_of_resolveInferable ht with htfile | htfile <;>
    rcases files_of_resolveInferable hc with hcfile | hcfile <;>
    rw [htfile, hcfile] <;> decide

/-- Tracers and garbage collectors are read from their files after loading, and the files
that loading only reads are as they were. -/
theorem settled_of_load (hsteady : Steady store) {s s' : σ} {r : Resolution} {done : List Unit}
    {es : List Event} (h : resolve store s = .ok r)
    (hrun : (Act.each (applyWrite store) r.pending).run s = ⟨.ok done, s', es⟩) :
    Settled store s' .tracer r.topology.tracers ∧
      Settled store s' .garbageCollector r.topology.garbageCollectors ∧
      ∀ file ∈ statedFiles, Alike store s store s' file := by
  obtain ⟨hworkers, hcoordinators, -, tracers, collectors, ht, hc, hpending⟩ :=
    resolve_eq_ok_iff.mp h
  have hstand : Standing store s := ⟨_, hostsFile_mem_roleFiles _, has_of_resolveWorkers hworkers⟩
  have hnamed := named_of_head hcoordinators
  have htfile := files_of_resolveInferable ht
  have hcfile := files_of_resolveInferable hc
  obtain ⟨hwritten, hothers⟩ := each_applyWrite_settles hsteady hstand (due_of_resolve h)
    (nodup_of_resolve h) hrun
  rw [hpending] at hwritten hothers
  rw [List.map_append] at hothers
  refine ⟨settled_of_resolveInferable ht hnamed (fun p hp => hwritten p (by simp [hp])) ?_,
    settled_of_resolveInferable hc hnamed (fun p hp => hwritten p (by simp [hp])) ?_, ?_⟩
  · rintro rfl
    refine hothers _ (hostsFile_mem_roleFiles _) ?_
    rcases hcfile with hcfile | hcfile <;> rw [hcfile] <;> decide
  · rintro rfl
    refine hothers _ (hostsFile_mem_roleFiles _) ?_
    rcases htfile with htfile | htfile <;> rw [htfile] <;> decide
  · intro file hfile
    obtain ⟨hmem, hnot⟩ := List.mem_filter.mp hfile
    refine hothers file hmem fun hin => absurd (of_decide_eq_true hnot) (not_not_intro ?_)
    rcases htfile with htfile | htfile <;> rcases hcfile with hcfile | hcfile <;>
      rw [htfile, hcfile] at hin <;> simp [inferredFiles] at hin ⊢ <;> simp [hin]

/-- The topology that was loaded is resolved again, with nothing pending. -/
theorem resolve_of_settled {s s' : σ} {r : Resolution} (h : resolve store s = .ok r)
    (htracers : Settled store s' .tracer r.topology.tracers)
    (hcollectors : Settled store s' .garbageCollector r.topology.garbageCollectors)
    (hstated : ∀ file ∈ statedFiles, Alike store s store s' file) :
    resolve store s' = .ok { r with pending := [] } := by
  obtain ⟨hworkers, hcoordinators, hmonitor, -⟩ := resolve_eq_ok_iff.mp h
  exact resolve_eq_ok_iff.mpr ⟨(resolveWorkers_congr hstated).trans hworkers,
    (resolveCoordinators_congr hstated).trans hcoordinators,
    (resolveMonitor_congr hstated _).trans hmonitor, [], [],
    htracers.resolveInferable _, hcollectors.resolveInferable _, rfl⟩

/-- A resolution that fails is all that loading comes to. -/
theorem load_of_error {e : Failure} (h : resolve store s = .error e) :
    (load store).run s = ⟨.error e, s, []⟩ := by
  rw [load, Act.run_bind_of_error (ask_run s h)]

/-- What loading did if it gave a topology. -/
theorem load_eq_ok {s : σ} {topology : Topology}
    (hload : ((load store).run s).result = .ok topology) :
    ∃ r done s' es, resolve store s = .ok r ∧ r.topology = topology ∧
      (Act.each (applyWrite store) r.pending).run s = ⟨.ok done, s', es⟩ ∧
      ((load store).run s).state = s' := by
  cases hresolve : resolve store s with
  | error e =>
    rw [load_of_error hresolve] at hload
    cases hload
  | ok r =>
    rw [load_run hresolve] at hload ⊢
    rcases heach : (Act.each (applyWrite store) r.pending).run s with ⟨e | done, s', es⟩
    · rw [heach] at hload
      cases hload
    · rw [heach] at hload
      exact ⟨r, done, s', es, rfl, Except.ok.inj hload, heach, rfl⟩

/-- Once a topology is loaded, loading again gives it with nothing to write and leaves the
store alone. In every state in which the files of the tracers and of the garbage collectors
are as loading left them, a topology that is resolved has the same tracers and the same
garbage collectors, and nothing pending. -/
theorem load_sticky (hsource : Source store) {s : σ} {topology : Topology}
    (hload : ((load store).run s).result = .ok topology) :
    (∃ r, resolve store ((load store).run s).state = .ok r ∧ r.topology = topology ∧
      r.pending = [] ∧ (load store).run ((load store).run s).state =
        ⟨.ok topology, ((load store).run s).state, r.warnings.map (.log .warning)⟩) ∧
    ∀ s' r, (∀ file ∈ inferredFiles, Alike store ((load store).run s).state store s' file) →
      resolve store s' = .ok r →
      r.pending = [] ∧ r.topology.tracers = topology.tracers ∧
        r.topology.garbageCollectors = topology.garbageCollectors := by
  obtain ⟨r, done, s₁, es, hresolve, rfl, heach, hstate⟩ := load_eq_ok hload
  rw [hstate]
  obtain ⟨htracers, hcollectors, hstated⟩ := settled_of_load hsource.steady hresolve heach
  constructor
  · have hagain := resolve_of_settled hresolve htracers hcollectors hstated
    refine ⟨_, hagain, rfl, rfl, ?_⟩
    rw [load_run hagain]
    simp [Act.each, Functor.map, Except.map]
  · intro s' r' hedited hresolve'
    have htracers' := htracers.alike (hedited _ (by decide))
    have hcollectors' := hcollectors.alike (hedited _ (by decide))
    exact pending_of_settled htracers' hcollectors' hresolve'

/-- The coordinators' file is renamed and rewritten after loading. -/
theorem load_sticky_renamed :
    let loaded := (load MemoryStore.store).run
      { files := [("tservers", ["w"]), ("managers", ["# first", " m1 ", "m2"])] }
    loaded.result = .ok ⟨["w"], ["m1", "m2"], "m1", ["m1"], ["m1"]⟩ ∧
      ∃ edited r, (loaded.state.write "masters" ["m3"]).remove "managers" = .ok edited ∧
        resolve MemoryStore.store edited = .ok r ∧ r.topology.coordinators = ["m3"] ∧
        r.pending = [] ∧ r.topology.tracers = ["m1"] ∧ r.topology.garbageCollectors = ["m1"] := by
  intro loaded
  have hload : loaded.result = .ok ⟨["w"], ["m1", "m2"], "m1", ["m1"], ["m1"]⟩ := by rfl
  obtain ⟨edited, hremove⟩ : ∃ edited,
    (loaded.state.write "masters" ["m3"]).remove "managers" = .ok edited := ⟨_, rfl⟩
  have halike : ∀ file ∈ inferredFiles,
      Alike MemoryStore.store loaded.state MemoryStore.store edited file := by
    intro file hfile
    have hne : file ≠ "masters" ∧ file ≠ "managers" := by
      revert file
      decide
    exact (MemoryStore.alike_of_write ["m3"] hne.1).trans
      (MemoryStore.alike_of_remove hremove hne.2)
  have hresolve : resolve MemoryStore.store edited =
      .ok ⟨⟨["w"], ["m3"], "m3", ["m1"], ["m1"]⟩, [], [deprecation "masters" "managers"]⟩ := by
    cases hremove
    rfl
  exact ⟨hload, edited, _, hremove, hresolve, rfl,
    (load_sticky .memory hload).2 edited _ halike hresolve⟩

end Resolution

end ServerFleet
