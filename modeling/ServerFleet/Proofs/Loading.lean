import ServerFleet.Proofs.Agreement
import ServerFleet.Store.Directory
import ServerFleet.Topology.Resolution

/-!
# What may go wrong with hosts files

An action is confined if all that is seen of it are lines of the log and all its
failures are of a kind (`Act.Confined`). Reading and writing hosts files is confined to
the failures of the store and to those of the configuration (`Resolution.load_confined`,
`Resolution.createDefaults_confined`).

A directory fails as its file system does, or because a file in it is no text
(`DirectoryStore.load_confined`, `DirectoryStore.createDefaults_confined`).
-/

namespace ServerFleet

/-- A line of the log. -/
def Event.IsLog : Event → Prop
  | .log .. => True
  | _ => False

/-- A line of the log is no call. -/
theorem Event.IsLog.systemCall?_eq_none {e : Event} (h : e.IsLog) : e.systemCall? = none := by
  cases e with
  | log => rfl
  | _ => exact h.elim

variable {τ σ α β : Type} {F : Failure → Prop}

/-- A result that is of the kind `F` if it is a failure. -/
def OnlyFails (F : Failure → Prop) : Except Failure α → Prop
  | .ok _ => True
  | .error e => F e

namespace OnlyFails

theorem of_ok (x : α) : OnlyFails F (.ok x : Except Failure α) := trivial

theorem imp {G : Failure → Prop} {r : Except Failure α} (h : OnlyFails F r)
    (hFG : ∀ e, F e → G e) : OnlyFails G r := by
  cases r with
  | ok _ => trivial
  | error e => exact hFG e h

theorem map {r : Except Failure α} (h : OnlyFails F r) (f : α → β) : OnlyFails F (f <$> r) := by
  cases r with
  | ok _ => trivial
  | error e => exact h

theorem bind {r : Except Failure α} {f : α → Except Failure β} (h : OnlyFails F r)
    (hf : ∀ x, OnlyFails F (f x)) : OnlyFails F (r >>= f) := by
  cases r with
  | ok x => exact hf x
  | error e => exact h

end OnlyFails

namespace Act

/-- All that is seen of the action are lines of the log, and its failures are of the
kind `F`. -/
def Confined (F : Failure → Prop) (a : Act τ α) : Prop :=
  ∀ s, (∀ e ∈ (a.run s).events, e.IsLog) ∧ OnlyFails F (a.run s).result

theorem confined_pure (x : α) : Confined F (pure x : Act τ α) :=
  fun _ => ⟨fun _ h => absurd h List.not_mem_nil, trivial⟩

theorem confined_fail {e : Failure} (h : F e) : Confined F (fail e : Act τ α) :=
  fun _ => ⟨fun _ h => absurd h List.not_mem_nil, h⟩

theorem confined_log (level : Level) (text : String) : Confined F (log level text : Act τ Unit) := by
  refine fun s => ⟨fun e he => ?_, trivial⟩
  rw [run_log, List.mem_singleton] at he
  exact he ▸ trivial

theorem confined_consult {f : τ → Except Failure α × τ} (h : ∀ s, OnlyFails F (f s).1) :
    Confined F (consult f) := fun s => ⟨fun _ h => absurd h List.not_mem_nil, h s⟩

theorem Confined.bind {a : Act τ α} {f : α → Act τ β} (h : Confined F a)
    (hf : ∀ x, Confined F (f x)) : Confined F (a >>= f) := by
  intro s
  obtain ⟨hev, hres⟩ := h s
  rw [run_bind]
  generalize a.run s = r at hev hres
  obtain ⟨_ | x, t, es⟩ := r
  · exact ⟨hev, hres⟩
  · obtain ⟨hev', hres'⟩ := hf x t
    exact ⟨fun e he => (List.mem_append.mp he).elim (hev e) (hev' e), hres'⟩

theorem Confined.map {a : Act τ α} (h : Confined F a) (f : α → β) : Confined F (f <$> a) := by
  rw [map_eq_pure_bind]
  exact h.bind fun x => confined_pure (f x)

theorem Confined.each {f : α → Act τ β} (h : ∀ x, Confined F (f x)) (xs : List α) :
    Confined F (each f xs) := by
  induction xs with
  | nil => exact confined_pure []
  | cons x xs ih => exact (h x).bind fun y => ih.map (y :: ·)

end Act

/-! ## Hosts files in a store -/

/-- The failures of a store are of the kind `F`. -/
structure Store.FailsAs (store : Store σ) (F : Failure → Prop) : Prop where
  has : ∀ s name, OnlyFails F (store.has s name)
  read : ∀ s name, OnlyFails F (store.read s name)
  write : ∀ s name lines, OnlyFails F (store.write s name lines).1

namespace Resolution

open Act (Confined)

variable {store : Store σ} (h : store.FailsAs F) (hc : ∀ p, F (.configuration p))

include h in
theorem readHosts_onlyFails (s : σ) (file : String) : OnlyFails F (readHosts store s file) :=
  (h.read s file).map _

include h in
theorem hasLegacy_onlyFails (s : σ) (role : Role) : OnlyFails F (hasLegacy store s role) := by
  unfold hasLegacy
  split
  · exact h.has s _
  · trivial

include hc in
theorem standIn_onlyFails (role : Role) (host : Option String) :
    OnlyFails F (standIn role host) := by
  cases host with
  | some host => trivial
  | none => exact hc _

include h hc

theorem resolveWorkers_onlyFails (s : σ) : OnlyFails F (resolveWorkers store s) := by
  refine (hasLegacy_onlyFails h s .worker).bind fun legacy => ?_
  split
  · exact hc _
  · refine (h.has s _).bind fun here => ?_
    split
    · refine (readHosts_onlyFails h s _).bind fun hosts => ?_
      cases hosts with
      | nil => exact hc _
      | cons host hosts => trivial
    · exact hc _

omit hc in
theorem resolveCoordinators_onlyFails (s : σ) : OnlyFails F (resolveCoordinators store s) := by
  refine (h.has s _).bind fun here => ?_
  split
  · exact (readHosts_onlyFails h s _).bind fun hosts => .of_ok _
  · refine (hasLegacy_onlyFails h s .coordinator).bind fun legacy => ?_
    split
    · exact (readHosts_onlyFails h s _).bind fun hosts => .of_ok _
    · trivial

theorem resolveMonitor_onlyFails (s : σ) (first : Option String) :
    OnlyFails F (resolveMonitor store s first) := by
  refine (h.has s _).bind fun here => ?_
  split
  · refine (readHosts_onlyFails h s _).bind fun hosts => ?_
    cases hosts with
    | nil => exact standIn_onlyFails hc _ _
    | cons host hosts => trivial
  · exact standIn_onlyFails hc _ _

theorem resolveInferable_onlyFails (s : σ) (role : Role) (first : Option String) :
    OnlyFails F (resolveInferable store s role first) := by
  refine (h.has s _).bind fun here => ?_
  split
  · exact (readHosts_onlyFails h s _).bind fun hosts => .of_ok _
  · exact (standIn_onlyFails hc role first).bind fun host => .of_ok _

theorem resolve_onlyFails (s : σ) : OnlyFails F (resolve store s) :=
  (resolveWorkers_onlyFails h hc s).bind fun _ =>
    (resolveCoordinators_onlyFails h s).bind fun _ =>
    (resolveMonitor_onlyFails h hc s _).bind fun _ =>
    (resolveInferable_onlyFails h hc s .tracer _).bind fun _ =>
    (resolveInferable_onlyFails h hc s .garbageCollector _).bind fun _ => .of_ok _

omit h hc in
theorem ask_confined {question : σ → Except Failure α} (hq : ∀ s, OnlyFails F (question s)) :
    Confined F (ask question) := Act.confined_consult hq

omit hc in
theorem write_confined (file : String) (lines : List String) :
    Confined F (write store file lines) := Act.confined_consult fun s => h.write s file lines

omit hc in
theorem applyWrite_confined (p : PendingWrite) : Confined F (applyWrite store p) := by
  refine (ask_confined fun s => h.has s p.file).bind fun here => ?_
  split
  · exact Act.confined_pure ()
  · exact (Act.confined_log _ _).bind fun _ => write_confined h p.file p.hosts

/-- To load a topology is to log, to read and to write. -/
theorem load_confined : Confined F (load store) :=
  (ask_confined (resolve_onlyFails h hc)).bind fun r =>
    (Confined.each (fun warning => Act.confined_log _ warning) r.warnings).bind fun _ =>
    ((Confined.each (applyWrite_confined h) r.pending).bind fun _ => Act.confined_pure ()).bind
      fun _ => Act.confined_pure r.topology

omit hc in
theorem existing_onlyFails (s : σ) (files : List String) :
    OnlyFails F (existing store s files) := by
  induction files with
  | nil => trivial
  | cons file files ih => exact (h.has s file).bind fun here => ih.bind fun rest => .of_ok _

theorem createDefaults_confined (host : String) (overwrite : Bool) :
    Confined F (createDefaults store host overwrite) := by
  refine (ask_confined fun s => existing_onlyFails h s hostsFiles).bind fun inTheWay => ?_
  split
  · exact Act.confined_fail (hc _)
  · exact (Confined.each (fun file => write_confined h file [host]) hostsFiles).bind fun _ =>
      Act.confined_pure hostsFiles

end Resolution

/-! ## Directories -/

/-- A failure of the file system, or a file that is no text. -/
def Failure.OfFiles : Failure → Prop
  | .file .. | .undecodable _ => True
  | _ => False

namespace FileTree

variable (t : FileTree) (path : Path)

theorem isFile_onlyFails : OnlyFails Failure.OfFiles (t.isFile path) := by
  unfold isFile
  split <;> trivial

theorem read_onlyFails : OnlyFails Failure.OfFiles (t.read path) := by
  unfold read
  split <;> trivial

theorem openFile_onlyFails : OnlyFails Failure.OfFiles (t.openFile path) := by
  unfold openFile
  split
  · trivial
  · split <;> trivial

theorem makeDirectories_onlyFails (depth : Nat) :
    OnlyFails Failure.OfFiles (t.makeDirectories depth path).1 := by
  induction depth generalizing t path with
  | zero =>
    unfold makeDirectories
    split
    · trivial
    · trivial
    · split <;> trivial
  | succ depth ih =>
    unfold makeDirectories
    split
    · trivial
    · have hparent := ih t path.parent
      dsimp only
      generalize t.makeDirectories depth path.parent = made at hparent
      obtain ⟨e | _, t'⟩ := made
      · exact hparent
      · dsimp only
        split
        · trivial
        · dsimp only
          split <;> trivial
    · split <;> trivial

theorem writeWithin_onlyFails (dir : Path) (bytes : List UInt8) :
    OnlyFails Failure.OfFiles (t.writeWithin dir path bytes).1 := by
  have hdir : OnlyFails Failure.OfFiles (t.ensureDirectory dir).1 :=
    makeDirectories_onlyFails t dir _
  unfold writeWithin
  generalize t.ensureDirectory dir = made at hdir
  obtain ⟨e | _, t'⟩ := made
  · exact hdir
  · have hwrite : OnlyFails Failure.OfFiles (t'.write path bytes) :=
      (openFile_onlyFails t' path).map _
    dsimp only
    generalize t'.write path bytes = written at hwrite
    obtain e | t'' := written
    · exact hwrite
    · trivial

end FileTree

/-- A problem with files, or one of the configuration. -/
def Failure.OfHosts (e : Failure) : Prop := e.OfFiles ∨ ∃ p, e = .configuration p

namespace DirectoryStore

/-- A directory fails as its file system does, or because a file is no text. -/
theorem failsAs (dir : Path) : (store dir).FailsAs Failure.OfFiles where
  has t _ := t.isFile_onlyFails _
  read t _ := by
    refine (t.read_onlyFails _).bind fun bytes => ?_
    unfold linesOf
    split <;> trivial
  write t _ _ := t.writeWithin_onlyFails _ _ _

theorem failsAs_ofHosts (dir : Path) : (store dir).FailsAs Failure.OfHosts where
  has t name := ((failsAs dir).has t name).imp fun _ => .inl
  read t name := ((failsAs dir).read t name).imp fun _ => .inl
  write t name lines := ((failsAs dir).write t name lines).imp fun _ => .inl

theorem load_confined (dir : Path) : (Resolution.load (store dir)).Confined Failure.OfHosts :=
  Resolution.load_confined (failsAs_ofHosts dir) fun p => .inr ⟨p, rfl⟩

theorem createDefaults_confined (dir : Path) (host : String) (overwrite : Bool) :
    (Resolution.createDefaults (store dir) host overwrite).Confined Failure.OfHosts :=
  Resolution.createDefaults_confined (failsAs_ofHosts dir) (fun p => .inr ⟨p, rfl⟩) host overwrite

end DirectoryStore

end ServerFleet
