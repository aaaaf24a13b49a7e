import ServerFleet.Proofs.Inference

/-!
# The store in memory and the store in a directory

Whatever is asked of a store of hosts files, it makes no difference whether the files are
in memory or in a directory, as long as no line holds a line break. `Mirrors` relates the
two: the directory's files are the lines in memory, each with a line feed after it, or
there are none yet and the directory is still to be made.

A client asks for files, writes them, resolves and loads topologies, applies what it
resolved earlier and makes default files (`Request`). One request is served alike and
keeps the two stores related (`serve_matches`), and so is any number of them.

* `Act.Matches`: actions that run alike on two kinds of states;
* `Mirrors.alike`, `Mirrors.write`: what files are there and what they hold;
* `stores_agree`: any requests are answered alike.
-/

namespace ServerFleet

/-! ## Actions on two kinds of states -/

/-- Two runs that end in the same result after the same events, in related states. -/
structure Ran.Matches {σ ρ α : Type} (R : σ → ρ → Prop) (a : Ran σ α) (b : Ran ρ α) : Prop where
  result : b.result = a.result
  events : b.events = a.events
  state : R a.state b.state

section Runs

variable {σ ρ α β : Type} {R : σ → ρ → Prop} {a : Act σ α} {b : Act ρ α} {s : σ} {t : ρ}

/-- Two steps match if the first ones do and the second ones do from where these end. -/
theorem Ran.Matches.bind {f : α → Act σ β} {g : α → Act ρ β}
    (h : Ran.Matches R (a.run s) (b.run t))
    (hf : ∀ x, (b.run t).result = .ok x →
      Ran.Matches R ((f x).run (a.run s).state) ((g x).run (b.run t).state)) :
    Ran.Matches R ((a >>= f).run s) ((b >>= g).run t) := by
  obtain ⟨hresult, hevents, hstate⟩ := h
  rw [Act.run_bind, Act.run_bind]
  generalize a.run s = r at *
  generalize b.run t = q at *
  obtain ⟨result, t', es'⟩ := q
  obtain ⟨_ | x, s', es⟩ := r
  · cases hresult
    exact ⟨rfl, hevents, hstate⟩
  · cases hresult
    obtain ⟨hresult₂, hevents₂, hstate₂⟩ := hf x rfl
    exact ⟨hresult₂, congr (congrArg HAppend.hAppend hevents) hevents₂, hstate₂⟩

theorem Ran.Matches.map (h : Ran.Matches R (a.run s) (b.run t)) (f : α → β) :
    Ran.Matches R ((f <$> a).run s) ((f <$> b).run t) :=
  ⟨congrArg (f <$> ·) h.result, h.events, h.state⟩

theorem Ran.Matches.attempt (h : Ran.Matches R (a.run s) (b.run t)) :
    Ran.Matches R (a.attempt.run s) (b.attempt.run t) :=
  ⟨congrArg Except.ok h.result, h.events, h.state⟩

end Runs

namespace Act

variable {σ ρ α β : Type} {R : σ → ρ → Prop}

/-- Two actions whose runs match from related states. -/
def Matches (R : σ → ρ → Prop) (a : Act σ α) (b : Act ρ α) : Prop :=
  ∀ s t, R s t → Ran.Matches R (a.run s) (b.run t)

theorem matches_pure (x : α) : Matches R (pure x : Act σ α) (pure x : Act ρ α) :=
  fun _ _ h => ⟨rfl, rfl, h⟩

theorem matches_fail (e : Failure) : Matches R (fail e : Act σ α) (fail e : Act ρ α) :=
  fun _ _ h => ⟨rfl, rfl, h⟩

theorem matches_log (level : Level) (text : String) :
    Matches R (log level text : Act σ Unit) (log level text : Act ρ Unit) :=
  fun _ _ h => ⟨rfl, rfl, h⟩

theorem Matches.bind {a : Act σ α} {b : Act ρ α} {f : α → Act σ β} {g : α → Act ρ β}
    (h : Matches R a b) (hf : ∀ x, Matches R (f x) (g x)) : Matches R (a >>= f) (b >>= g) :=
  fun s t hR => (h s t hR).bind fun x _ => hf x _ _ (h s t hR).state

theorem Matches.each {f : α → Act σ β} {g : α → Act ρ β} {xs : List α}
    (h : ∀ x ∈ xs, Matches R (f x) (g x)) : Matches R (Act.each f xs) (Act.each g xs) := by
  induction xs with
  | nil => exact matches_pure _
  | cons x xs ih =>
    obtain ⟨hx, hxs⟩ := List.forall_mem_cons.mp h
    exact hx.bind fun y s t hR => (ih hxs s t hR).map (y :: ·)

end Act

/-! ## The two stores -/

open Resolution

/-- Every line of the hosts files is without breaks. -/
def MemoryStore.Unbroken (m : MemoryStore) : Prop :=
  ∀ file ∈ roleFiles, ∀ lines, m.lines? file = some lines → ∀ l ∈ lines, Text.Unbroken l

namespace DirectoryStore

/-- Every hosts file of the directory is the text of its lines in memory, and there is none
but these. -/
def Holds (dir : Path) (m : MemoryStore) (t : FileTree) : Prop :=
  ∀ file ∈ roleFiles, t.at? (pathOf dir file) =
    .ok ((m.lines? file).map fun lines => .file (bytesOf lines))

/-- There are no hosts files, the directory can be made, and there will be none then. -/
structure Awaits (dir : Path) (m : MemoryStore) (t : FileTree) : Prop where
  nothing : ∀ file ∈ roleFiles, m.lines? file = none ∧ t.isFile (pathOf dir file) = .ok false
  made : ∃ t', t.ensureDirectory dir = (.ok (), t') ∧ Holds dir m t'

/-- No line in memory holds a break, and the directory holds the same files, or there are
none and it is still to be made. -/
structure Mirrors (dir : Path) (m : MemoryStore) (t : FileTree) : Prop where
  unbroken : m.Unbroken
  held : Holds dir m t ∨ Awaits dir m t

variable {dir : Path} {m : MemoryStore} {t : FileTree} {file : String}

theorem Holds.alike (h : Holds dir m t) (hm : m.Unbroken) (hf : file ∈ roleFiles) :
    Alike MemoryStore.store m (store dir) t file := by
  have hat := h file hf
  cases hlines : m.lines? file with
  | none =>
    rw [hlines] at hat
    constructor <;> simp [store, MemoryStore.store, FileTree.isFile, hat, hlines]
  | some lines =>
    rw [hlines] at hat
    constructor
    · simp [store, MemoryStore.store, FileTree.isFile, hat, hlines]
    · intro _
      rw [read_of_at? hat, linesOf_bytesOf (hm file hf lines hlines)]
      simp [MemoryStore.store, hlines]

/-- The same files are there, and they are read alike. -/
theorem Mirrors.alike (h : Mirrors dir m t) (hf : file ∈ roleFiles) :
    Alike MemoryStore.store m (store dir) t file := by
  rcases h.held with hheld | hawaits
  · exact hheld.alike h.unbroken hf
  · obtain ⟨hnone, hfile⟩ := hawaits.nothing file hf
    constructor <;> simp [store, MemoryStore.store, hfile, hnone]

/-- The directory is there or can be made, and then it holds the files. -/
theorem Mirrors.made (h : Mirrors dir m t) :
    ∃ t', t.ensureDirectory dir = (.ok (), t') ∧ Holds dir m t' := by
  rcases h.held with hheld | hawaits
  · have hf : Role.worker.hostsFile ∈ roleFiles := hostsFile_mem_roleFiles _
    have hplain := plain_of_mem_roleFiles hf
    obtain ⟨hfit, D, hD⟩ := leads_of_at? hplain (hheld _ hf)
    have hshort := Nat.le_trans (hplain.text_le dir) hfit
    exact ⟨t, FileTree.ensureDirectory_of_leads hD hshort, hheld⟩
  · exact hawaits.made

/-- Lines without breaks are written to the directory as they are to memory. -/
theorem Mirrors.write (h : Mirrors dir m t) (hf : file ∈ roleFiles) {lines : List String}
    (hlines : ∀ l ∈ lines, Text.Unbroken l) :
    ∃ t', (store dir).write t file lines = (.ok (), t') ∧ Mirrors dir (m.write file lines) t' := by
  obtain ⟨t₁, hmade, hheld⟩ := h.made
  have hplain := plain_of_mem_roleFiles hf
  have hat := hheld file hf
  obtain ⟨hfit, D, hD⟩ := leads_of_at? hplain hat
  have hnode : t₁.node? (D ++ [file]) ≠ some .directory := by
    rw [at?_of_fits hD hplain hfit] at hat
    rw [Except.ok.inj hat]
    cases m.lines? file <;> simp
  have hwrite := (write_pathOf_eq_ok_iff hD hplain (bytesOf lines)).mpr ⟨hfit, hnode, rfl⟩
  obtain ⟨hself, hothers⟩ := at?_of_write hD hplain hwrite
  refine ⟨t₁.put (D ++ [file]) (.file (bytesOf lines)), ?_, ?_, .inl fun other ho => ?_⟩
  · show t.writeWithin dir _ _ = _
    rw [FileTree.writeWithin, hmade]
    dsimp only
    rw [hwrite]
  · intro other ho ls hls
    rw [MemoryStore.lines?_write] at hls
    split at hls
    · cases hls
      exact hlines
    · exact h.unbroken other ho ls hls
  · rw [MemoryStore.lines?_write]
    split
    · rename_i same
      rw [same, hself]
      rfl
    · rename_i hne
      rw [hothers other (plain_of_mem_roleFiles ho) hne, hheld other ho]

end DirectoryStore

/-! ## What is done with a store -/

namespace Resolution

open DirectoryStore

variable {dir : Path}

/-- A pending write that either store can take. -/
structure Storable (p : PendingWrite) : Prop where
  mem : p.file ∈ roleFiles
  unbroken : ∀ host ∈ p.hosts, Text.Unbroken host

/-- What is pending comes from the files, so no line break is in it. -/
theorem storable_of_resolve {t : FileTree} {r : Resolution}
    (h : resolve (DirectoryStore.store dir) t = .ok r) : ∀ p ∈ r.pending, Storable p := by
  intro p hp
  obtain ⟨hmem, -, host, hhosts, hnamed⟩ := due_of_resolve h p hp
  refine ⟨hmem, fun other ho => ?_⟩
  rw [hhosts, List.mem_singleton] at ho
  exact ho ▸ unbroken_of_named hnamed

theorem ask_matches {α : Type} {question : MemoryStore → Except Failure α}
    {question' : FileTree → Except Failure α}
    (h : ∀ m t, Mirrors dir m t → question' t = question m) :
    Act.Matches (Mirrors dir) (ask question) (ask question') :=
  fun m t hR => ⟨h m t hR, rfl, hR⟩

theorem has_matches {file : String} (hf : file ∈ roleFiles) :
    Act.Matches (Mirrors dir) (ask fun m => MemoryStore.store.has m file)
      (ask fun t => (DirectoryStore.store dir).has t file) :=
  ask_matches fun _ _ hR => (hR.alike hf).has

theorem resolve_matches : Act.Matches (Mirrors dir) (ask (resolve MemoryStore.store))
    (ask (resolve (DirectoryStore.store dir))) :=
  ask_matches fun _ _ hR => resolve_congr fun _ hf => hR.alike hf

theorem write_matches {file : String} (hf : file ∈ roleFiles) {lines : List String}
    (hlines : ∀ l ∈ lines, Text.Unbroken l) :
    Act.Matches (Mirrors dir) (write MemoryStore.store file lines)
      (write (DirectoryStore.store dir) file lines) := by
  intro m t hR
  obtain ⟨t', hwrite, hR'⟩ := hR.write hf hlines
  rw [write, write, Act.run_consult, Act.run_consult, hwrite]
  exact ⟨rfl, rfl, hR'⟩

theorem applyWrite_matches {p : PendingWrite} (hp : Storable p) :
    Act.Matches (Mirrors dir) (applyWrite MemoryStore.store p)
      (applyWrite (DirectoryStore.store dir) p) := by
  refine (has_matches hp.mem).bind fun here => ?_
  cases here with
  | true => exact Act.matches_pure ()
  | false => exact (Act.matches_log _ _).bind fun _ => write_matches hp.mem hp.unbroken

theorem applyPending_matches {r : Resolution} (hr : ∀ p ∈ r.pending, Storable p) :
    Act.Matches (Mirrors dir) (applyPending MemoryStore.store r)
      (applyPending (DirectoryStore.store dir) r) :=
  (Act.Matches.each fun p hp => applyWrite_matches (hr p hp)).bind fun _ => Act.matches_pure ()

theorem load_matches : Act.Matches (Mirrors dir) (load MemoryStore.store)
    (load (DirectoryStore.store dir)) := by
  intro m t hR
  refine (resolve_matches m t hR).bind fun r hr => ?_
  have hpending : Act.Matches (Mirrors dir) _ _ := applyPending_matches (storable_of_resolve hr)
  exact ((Act.Matches.each fun _ _ => Act.matches_log _ _).bind fun _ =>
    hpending.bind fun _ => Act.matches_pure _) m t hR

theorem existing_congr {m : MemoryStore} {t : FileTree} (hR : Mirrors dir m t)
    {names : List String} (hnames : ∀ file ∈ names, file ∈ roleFiles) :
    existing (DirectoryStore.store dir) t names = existing MemoryStore.store m names := by
  induction names with
  | nil => rfl
  | cons file names ih =>
    obtain ⟨hf, hnames⟩ := List.forall_mem_cons.mp hnames
    rw [existing, existing, (hR.alike hf).has, ih hnames]

theorem createDefaults_matches {host : String} (hhost : Text.Unbroken host) (overwrite : Bool) :
    Act.Matches (Mirrors dir) (createDefaults MemoryStore.store host overwrite)
      (createDefaults (DirectoryStore.store dir) host overwrite) := by
  have hfiles : ∀ file ∈ hostsFiles, file ∈ roleFiles := fun file hf => List.mem_append_left _ hf
  refine (ask_matches fun m t hR => existing_congr hR hfiles).bind fun inTheWay => ?_
  split
  · exact Act.matches_fail _
  · refine (Act.Matches.each fun file hf => write_matches (hfiles file hf) ?_).bind fun _ =>
      Act.matches_pure _
    exact fun l hl => List.mem_singleton.mp hl ▸ hhost

end Resolution

/-! ## Clients -/

/-- What is asked of a store. -/
inductive StoreRequest where
  | has (file : String)
  | read (file : String)
  | write (file : String) (lines : List String)
  | resolve
  | load
  /-- To write what was pending when the topology was resolved the time `number`, counted
  from zero. -/
  | applyPending (number : Nat)
  | createDefaults (host : String) (overwrite : Bool)

/-- What comes of a request. -/
inductive StoreAnswer where
  | here (yes : Bool)
  | lines (lines : List String)
  | resolution (r : Resolution)
  | topology (t : Topology)
  | written (files : List String)
  | done

/-- A store, and every resolution that was asked of it, in order. -/
structure Client (σ : Type) where
  state : σ
  resolutions : List Resolution := []

namespace Client

variable {σ ρ : Type}

/-- Runs an action on the store. -/
def onStore {α : Type} (a : Act σ α) : Act (Client σ) α :=
  a.zoom Client.state fun s c => { c with state := s }

def remember (r : Resolution) : Act (Client σ) Unit :=
  Act.modify fun c => { c with resolutions := c.resolutions ++ [r] }

/-- Serves a request. A number under which there is no resolution asks for nothing. -/
def serve (store : Store σ) : StoreRequest → Act (Client σ) StoreAnswer
  | .has file => .here <$> onStore (Resolution.ask fun s => store.has s file)
  | .read file => .lines <$> onStore (Resolution.ask fun s => store.read s file)
  | .write file lines => (fun _ => .done) <$> onStore (Resolution.write store file lines)
  | .resolve => do
    let r ← onStore (Resolution.ask (Resolution.resolve store))
    remember r
    return .resolution r
  | .load => .topology <$> onStore (Resolution.load store)
  | .applyPending number => do
    let c ← Act.get
    match c.resolutions[number]? with
    | some r => onStore (Resolution.applyPending store r)
    | none => pure ()
    return .done
  | .createDefaults host overwrite =>
    .written <$> onStore (Resolution.createDefaults store host overwrite)

/-- Serves requests in turn, whether they fail or not. -/
def serveAll (store : Store σ) (requests : List StoreRequest) :
    Act (Client σ) (List (Except Failure StoreAnswer)) :=
  Act.each (fun r => (serve store r).attempt) requests

end Client

/-- Whether a request asks for hosts files by their names, reads only files that are there
and writes only lines without breaks. -/
def StoreRequest.Admissible (c : Client MemoryStore) : StoreRequest → Prop
  | has file => file ∈ roleFiles
  | read file => file ∈ roleFiles ∧ (c.state.lines? file).isSome
  | write file lines => file ∈ roleFiles ∧ ∀ l ∈ lines, Text.Unbroken l
  | createDefaults host _ => Text.Unbroken host
  | resolve | load | applyPending _ => True

/-- Whether each of the requests is admissible once those before it are served. -/
def Client.AllAdmissible (c : Client MemoryStore) : List StoreRequest → Prop
  | [] => True
  | r :: rs =>
    r.Admissible c ∧ AllAdmissible ((serve MemoryStore.store r).run c).state rs

namespace Client

open Resolution DirectoryStore

variable {dir : Path}

/-- Two clients whose stores mirror each other and who have asked for the same. -/
structure Together (dir : Path) (c : Client MemoryStore) (d : Client FileTree) : Prop where
  mirrors : Mirrors dir c.state d.state
  resolutions : d.resolutions = c.resolutions
  storable : ∀ r ∈ c.resolutions, ∀ p ∈ r.pending, Storable p

theorem onStore_matches {α : Type} {a : Act MemoryStore α} {b : Act FileTree α}
    (h : Act.Matches (Mirrors dir) a b) :
    Act.Matches (Together dir) (onStore a) (onStore b) := by
  intro c d hR
  obtain ⟨hresult, hevents, hstate⟩ := h _ _ hR.mirrors
  exact ⟨hresult, hevents, hstate, hR.resolutions, hR.storable⟩

theorem remember_matches {r : Resolution} (hr : ∀ p ∈ r.pending, Storable p) :
    Act.Matches (Together dir) (remember r) (remember r) := by
  intro c d hR
  refine ⟨rfl, rfl, hR.mirrors, congrArg (· ++ [r]) hR.resolutions, fun q hq => ?_⟩
  rcases List.mem_append.mp hq with hq | hq
  · exact hR.storable q hq
  · exact List.mem_singleton.mp hq ▸ hr

/-- An admissible request is served alike. -/
theorem serve_matches {c : Client MemoryStore} {d : Client FileTree} (hR : Together dir c d)
    {r : StoreRequest} (hr : r.Admissible c) :
    Ran.Matches (Together dir) ((serve MemoryStore.store r).run c)
      ((serve (DirectoryStore.store dir) r).run d) := by
  cases r with
  | has file => exact (onStore_matches (has_matches hr) c d hR).map _
  | read file =>
    have hread := (hR.mirrors.alike hr.1).read (congrArg Except.ok hr.2)
    exact ⟨congrArg (StoreAnswer.lines <$> ·) hread, rfl, hR⟩
  | write file lines => exact (onStore_matches (write_matches hr.1 hr.2) c d hR).map _
  | resolve =>
    refine (onStore_matches resolve_matches c d hR).bind fun r hr => ?_
    exact ((remember_matches (storable_of_resolve hr)).bind fun _ => Act.matches_pure _) c d hR
  | load => exact (onStore_matches load_matches c d hR).map _
  | applyPending number =>
    have hget : (Act.get : Act (Client MemoryStore) _).run c = ⟨.ok c, c, []⟩ := rfl
    have hget' : (Act.get : Act (Client FileTree) _).run d = ⟨.ok d, d, []⟩ := rfl
    rw [serve, serve, Act.run_bind_of_ok hget, Act.run_bind_of_ok hget', hR.resolutions]
    cases hr : c.resolutions[number]? with
    | none => exact ⟨rfl, rfl, hR⟩
    | some r =>
      have hr := hR.storable r (List.mem_of_getElem? hr)
      exact ((onStore_matches (applyPending_matches hr)).bind fun _ => Act.matches_pure _) c d hR
  | createDefaults host overwrite =>
    exact (onStore_matches (createDefaults_matches hr overwrite) c d hR).map _

theorem serveAll_matches {c : Client MemoryStore} {d : Client FileTree} (hR : Together dir c d)
    {requests : List StoreRequest} (hrequests : c.AllAdmissible requests) :
    Ran.Matches (Together dir) ((serveAll MemoryStore.store requests).run c)
      ((serveAll (DirectoryStore.store dir) requests).run d) := by
  induction requests generalizing c d with
  | nil => exact ⟨rfl, rfl, hR⟩
  | cons r rs ih =>
    have hfirst := serve_matches hR hrequests.1
    exact hfirst.attempt.bind fun y _ => (ih hfirst.state hrequests.2).map (y :: ·)

/-- Every request is answered, by a result or by a failure. -/
theorem serveAll_ok {σ : Type} (store : Store σ) (requests : List StoreRequest) (c : Client σ) :
    ∃ answers, ((serveAll store requests).run c).result = .ok answers ∧
      answers.length = requests.length := by
  induction requests generalizing c with
  | nil => exact ⟨[], rfl, rfl⟩
  | cons r rs ih =>
    obtain ⟨answers, hanswers, hlength⟩ := ih ((serve store r).run c).state
    refine ⟨((serve store r).run c).result :: answers, ?_, congrArg (· + 1) hlength⟩
    rw [serveAll, Act.each, Act.run_bind_of_ok (Act.run_attempt _ _)]
    exact congrArg (_ <$> ·) hanswers

/-- Whatever is asked for, the files in memory and those in a directory give the same
answers, failures included, log the same, and go on to mirror each other. -/
theorem stores_agree {m : MemoryStore} {t : FileTree} (h : Mirrors dir m t)
    {requests : List StoreRequest}
    (hrequests : (⟨m, []⟩ : Client MemoryStore).AllAdmissible requests) :
    let inMemory := (serveAll MemoryStore.store requests).run ⟨m, []⟩
    let inDirectory := (serveAll (DirectoryStore.store dir) requests).run ⟨t, []⟩
    ∃ answers, inMemory.result = .ok answers ∧ inDirectory.result = .ok answers ∧
      answers.length = requests.length ∧ inDirectory.events = inMemory.events ∧
      Mirrors dir inMemory.state.state inDirectory.state.state := by
  intro inMemory inDirectory
  have htogether : Together dir ⟨m, []⟩ ⟨t, []⟩ := ⟨h, rfl, by simp⟩
  obtain ⟨hresult, hevents, hstate⟩ := serveAll_matches htogether hrequests
  obtain ⟨answers, hanswers, hlength⟩ := serveAll_ok MemoryStore.store requests ⟨m, []⟩
  exact ⟨answers, hanswers, hresult.trans hanswers, hlength, hevents, hstate.mirrors⟩

/-- A directory is made with default files, which are changed, loaded and not overwritten. -/
theorem stores_agree_conf :
    let dir := Path.parse "conf/fleet"
    let requests : List StoreRequest :=
      [.has "gc", .createDefaults "a" false, .write "managers" ["# b", "", "c\t"], .resolve,
        .write "tservers" [], .load, .applyPending 0, .read "managers", .createDefaults "b" false]
    let inMemory := (serveAll MemoryStore.store requests).run ⟨{}, []⟩
    let inDirectory := (serveAll (DirectoryStore.store dir) requests).run ⟨{}, []⟩
    ∃ answers, inMemory.result = .ok answers ∧ inDirectory.result = .ok answers ∧
      answers.length = 9 ∧ inDirectory.events = inMemory.events ∧
      Mirrors dir inMemory.state.state inDirectory.state.state := by
  intro dir requests
  let made : FileTree := ⟨[(["conf"], .directory), (["conf", "fleet"], .directory)]⟩
  have hfiles : ∀ file ∈ roleFiles, ({} : FileTree).isFile (pathOf dir file) = .ok false ∧
      made.at? (pathOf dir file) = .ok none := by
    intro file hf
    have hnames : file ∈ ["managers", "tservers", "gc", "monitor", "tracers", "masters",
      "slaves"] := hf
    simp only [List.mem_cons, List.not_mem_nil, or_false] at hnames
    rcases hnames with rfl | rfl | rfl | rfl | rfl | rfl | rfl <;> exact ⟨rfl, rfl⟩
  have hmirrors : Mirrors dir {} {} :=
    ⟨fun _ _ _ hlines => (nomatch hlines), .inr ⟨fun file hf => ⟨rfl, (hfiles file hf).1⟩,
      made, rfl, fun file hf => (hfiles file hf).2⟩⟩
  refine stores_agree hmirrors ?_
  simp only [requests, AllAdmissible, StoreRequest.Admissible, true_and, and_true]
  exact ⟨by decide, by decide, ⟨by decide, by decide⟩, ⟨by decide, by decide⟩,
    ⟨by decide, rfl⟩, by decide⟩

end Client

end ServerFleet
