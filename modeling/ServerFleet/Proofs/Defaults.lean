import ServerFleet.Proofs.Acceptance
import ServerFleet.Proofs.Shelves

/-!
# Default hosts files are resolved

Default files are made where no hosts file is in the way, or where those that are may be
overwritten (`createDefaults_of_existing`, `createDefaults_of_free`). Then all five hold the
same line, so the same hosts are read of all of them, and these are every role's. The host is
not looked at when it is written, so there may be none, or several if it has line breaks.

* `existing_eq_ok_iff`: which files are in the way;
* `made_of_each`: what the files hold once the defaults are written;
* `resolve_of_made`: what is read and resolved then;
* `createDefaults_resolves`: when defaults are made, and what is resolved then.
-/

namespace ServerFleet

namespace Resolution

variable {σ : Type} {store : Store σ} {s s' : σ} {host : String}

/-! ## Files that are in the way -/

/-- Whether a store says that a file exists. -/
def found (store : Store σ) (s : σ) (file : String) : Bool :=
  (store.has s file).toOption = some true

theorem found_of_has {file : String} {here : Bool} (h : store.has s file = .ok here) :
    found store s file = here := by
  cases here <;> simp [found, h, Except.toOption]

theorem found_eq_true_iff {file : String} :
    found store s file = true ↔ store.has s file = .ok true := by
  cases hhas : store.has s file with
  | error e => simp [found, hhas, Except.toOption]
  | ok here => simp [found_of_has hhas]

/-- The store knows of each file whether it exists. -/
def Known (store : Store σ) (s : σ) (files : List String) : Prop :=
  ∀ f ∈ files, ∃ here, store.has s f = .ok here

/-- The files that exist are found if it is known of each whether it does. -/
theorem existing_eq_ok_iff {files names : List String} : existing store s files = .ok names ↔
    Known store s files ∧ files.filter (found store s) = names := by
  induction files generalizing names with
  | nil => simp [existing, Known]
  | cons file files ih =>
    rw [Known, List.forall_mem_cons, ← Known]
    cases hhas : store.has s file with
    | error e => simp [existing, hhas, bind, Except.bind]
    | ok here =>
      rw [List.filter_cons, found_of_has hhas]
      cases hrest : existing store s files with
      | error e =>
        have hnot : ¬ Known store s files := fun hknown => by
          have hok := ih.mpr ⟨hknown, rfl⟩
          rw [hrest] at hok
          cases hok
        simp [existing, hhas, hrest, bind, Except.bind, hnot]
      | ok rest =>
        obtain ⟨hknown, rfl⟩ := ih.mp hrest
        cases here <;>
          simp [existing, hhas, hrest, bind, Except.bind, pure, Except.pure, hknown]

/-- A file is there just if the files that are there are not none. -/
theorem exists_has_iff {files : List String} :
    (∃ f ∈ files, store.has s f = .ok true) ↔ files.filter (found store s) ≠ [] := by
  simp [List.filter_eq_nil_iff, found_eq_true_iff]

theorem Known.no_error {files : List String} (h : Known store s files) :
    ¬ ∃ f ∈ files, ∃ e, store.has s f = .error e := by
  rintro ⟨f, hf, e, herror⟩
  obtain ⟨here, hhere⟩ := h f hf
  rw [herror] at hhere
  cases hhere

/-- If the files that exist are not known, it is not known of one of them. -/
theorem exists_error_of_existing {files : List String} {e : Failure}
    (h : existing store s files = .error e) : ∃ f ∈ files, store.has s f = .error e := by
  induction files with
  | nil => cases h
  | cons file files ih =>
    cases hhas : store.has s file with
    | error e' =>
      rw [existing, hhas] at h
      cases h
      exact ⟨file, .head _, hhas⟩
    | ok here =>
      cases hrest : existing store s files with
      | error e' =>
        rw [existing, hhas, hrest] at h
        cases h
        obtain ⟨f, hf, herror⟩ := ih hrest
        exact ⟨f, .tail _ hf, herror⟩
      | ok rest =>
        rw [existing, hhas, hrest] at h
        cases h

/-! ## Making defaults -/

/-- What making defaults comes to once it is settled that nothing is in the way. -/
def writeDefaults (store : Store σ) (host : String) : Act σ (List Unit) :=
  Act.each (fun file => write store file [host]) hostsFiles

theorem createDefaults_of_error {e : Failure} {overwrite : Bool}
    (h : existing store s hostsFiles = .error e) :
    (createDefaults store host overwrite).run s = ⟨.error e, s, []⟩ := by
  rw [createDefaults, Act.run_bind_of_error (ask_run s h)]

/-- Files that are in the way and must not be overwritten. -/
theorem createDefaults_of_existing {names : List String}
    (h : existing store s hostsFiles = .ok names) (hnames : names ≠ []) :
    (createDefaults store host false).run s =
      ⟨.error (.configuration (.existingFiles names)), s, []⟩ := by
  have hempty : names.isEmpty = false := by simpa using hnames
  rw [createDefaults, Act.run_bind_of_ok (ask_run s h), hempty]
  rfl

/-- Nothing is in the way, or it is overwritten. -/
theorem createDefaults_of_free (host : String) {names : List String} {overwrite : Bool}
    (h : existing store s hostsFiles = .ok names) (hfree : names = [] ∨ overwrite = true) :
    (createDefaults store host overwrite).run s =
      ⟨(fun _ => hostsFiles) <$> ((writeDefaults store host).run s).result,
        ((writeDefaults store host).run s).state, ((writeDefaults store host).run s).events⟩ := by
  have hgo : (!names.isEmpty && !overwrite) = false := by
    rcases hfree with rfl | rfl <;> simp
  rw [createDefaults, Act.run_bind_of_ok (ask_run s h), hgo, if_neg Bool.false_ne_true,
    bind_pure_comp, Act.run_map]
  rfl

/-- How making defaults ends: it is not known whether a file exists, files are in the way, the
files cannot be written, or they are. -/
theorem createDefaults_cases (hstore : store.FailsAs Failure.OfStore) (s : σ) (host : String)
    (overwrite : Bool) :
    (∃ f ∈ hostsFiles, ∃ e, store.has s f = .error e ∧ e.OfStore ∧
      (createDefaults store host overwrite).run s = ⟨.error e, s, []⟩) ∨
    Known store s hostsFiles ∧
      ((overwrite = false ∧ hostsFiles.filter (found store s) ≠ [] ∧
        (createDefaults store host overwrite).run s =
          ⟨.error (.configuration (.existingFiles (hostsFiles.filter (found store s)))), s, []⟩) ∨
      (hostsFiles.filter (found store s) = [] ∨ overwrite = true) ∧
        ((∃ e s' es, e.OfStore ∧
          (createDefaults store host overwrite).run s = ⟨.error e, s', es⟩) ∨
        ∃ done s' es, (writeDefaults store host).run s = ⟨.ok done, s', es⟩ ∧
          (createDefaults store host overwrite).run s = ⟨.ok hostsFiles, s', es⟩)) := by
  cases hexisting : existing store s hostsFiles with
  | error e =>
    obtain ⟨f, hf, herror⟩ := exists_error_of_existing hexisting
    have hfails := hstore.has s f
    rw [herror] at hfails
    exact .inl ⟨f, hf, e, herror, hfails, createDefaults_of_error hexisting⟩
  | ok names =>
    obtain ⟨hknown, rfl⟩ := existing_eq_ok_iff.mp hexisting
    refine .inr ⟨hknown, ?_⟩
    by_cases hfree : hostsFiles.filter (found store s) = [] ∨ overwrite = true
    · have hrun := createDefaults_of_free host hexisting hfree
      rcases hwrite : (writeDefaults store host).run s with ⟨e | done, s', es⟩
      · have hfails := (Act.Confined.each (write_confined hstore · [host]) hostsFiles s).2
        rw [← writeDefaults, hwrite] at hfails
        exact .inr ⟨hfree, .inl ⟨e, s', es, hfails, by rw [hrun, hwrite]; rfl⟩⟩
      · exact .inr ⟨hfree, .inr ⟨done, s', es, rfl, by rw [hrun, hwrite]; rfl⟩⟩
    · obtain ⟨hne, hkeep⟩ := not_or.mp hfree
      obtain rfl : overwrite = false := by simpa using hkeep
      exact .inl ⟨rfl, hne, createDefaults_of_existing hexisting hne⟩

/-- Once the same lines are written to some files, each of them exists and holds them, and the
others stay as they were. -/
theorem made_of_each (shelf : Shelf store) {files lines : List String} {done : List Unit}
    {es : List Event} (hfiles : ∀ f ∈ files, f ∈ roleFiles)
    (hrun : (Act.each (fun file => write store file lines) files).run s = ⟨.ok done, s', es⟩) :
    (∀ f ∈ files, store.has s' f = .ok true) ∧
    (∀ f ∈ roleFiles, store.has s f = .ok true → store.has s' f = .ok true) ∧
    (∀ f ∈ files, shelf.file? s' (shelf.key f) = some (shelf.content lines)) ∧
    ∀ k, (∀ f ∈ files, k ≠ shelf.key f) → shelf.file? s' k = shelf.file? s k := by
  induction files generalizing s done es with
  | nil =>
    obtain rfl : s = s' := congrArg Ran.state hrun
    simp
  | cons file files ih =>
    obtain ⟨hfile, hfiles⟩ := List.forall_mem_cons.mp hfiles
    obtain ⟨_, s₁, _, _, _, hfirst, hrest, -, -⟩ := Act.run_each_cons_eq_ok hrun
    have hw : store.write s file lines = (.ok (), s₁) := by
      rw [write, Act.run_consult] at hfirst
      obtain ⟨hresult, hstate, -⟩ := Ran.mk.inj hfirst
      exact Prod.ext hresult hstate
    obtain ⟨hhas, hstays, hheld, hothers⟩ := ih hfiles hrest
    refine ⟨?_, fun f hf h => hstays f hf (shelf.stays hfile hf hw h), ?_, fun k hk => ?_⟩
    · rintro f (_ | ⟨_, hf⟩)
      · exact hstays file hfile (shelf.has hfile hw)
      · exact hhas f hf
    · rintro f (_ | ⟨_, hf⟩)
      · by_cases hagain : ∃ g ∈ files, shelf.key file = shelf.key g
        · obtain ⟨g, hg, hkey⟩ := hagain
          rw [hkey, hheld g hg]
        · rw [hothers _ fun g hg hkey => hagain ⟨g, hg, hkey⟩, shelf.written hfile hw]
      · exact hheld f hf
    · obtain ⟨hne, hk⟩ := List.forall_mem_cons.mp hk
      rw [hothers k hk, shelf.others hfile hw hne]

/-! ## Resolving defaults -/

/-- What a store holds whose files all have the same lines. -/
def uniform (store : Store σ) (s : σ) (lines : List String) : Listing := fun file =>
  if file ∈ hostsFiles then some lines else if found store s file then some [] else none

/-- Files that are all there with the same lines are what the store holds, whatever is in those
that have a former name. -/
theorem lists_uniform {lines : List String} (hhas : ∀ f ∈ hostsFiles, store.has s f = .ok true)
    (hread : ∀ f ∈ hostsFiles, store.read s f = .ok lines) (hknown : Known store s roleFiles) :
    Lists store s (uniform store s lines) where
  has f hf := by
    rw [uniform]
    split
    · rename_i hmem
      rw [hhas f hmem]
      rfl
    · obtain ⟨here, hhere⟩ := hknown f hf
      rw [hhere, found_of_has hhere]
      cases here <;> rfl
  read f hf ls hls := by
    rw [uniform, if_pos hf] at hls
    rw [hread f hf, Option.some.inj hls]
  former h := by
    rw [uniform, if_pos (by decide)] at h
    cases h

section Same

variable {files : Listing} {lines : List String} (h : Lists store s files)
  (hsame : ∀ f ∈ hostsFiles, files f = some lines)

include hsame

theorem hosts_of_same (file : String) (hf : file ∈ hostsFiles) :
    files.hosts file = parseHosts lines := by
  rw [Listing.hosts, hsame file hf, parseHosts_eq]
  rfl

theorem coordinators_of_same : files.coordinators = parseHosts lines := by
  have hthere : (files "managers").isSome := by rw [hsame "managers" (by decide)]; rfl
  rw [Listing.coordinators, if_pos hthere]
  exact hosts_of_same hsame "managers" (by decide)

/-- Only the first two rules can be violated. -/
theorem rules_of_same : (∀ rule ∈ rules, rule.holds files = true) ↔
    files "slaves" = none ∧ parseHosts lines ≠ [] := by
  have hworkers := hosts_of_same hsame "tservers" (by decide)
  constructor
  · intro hrules
    have hlegacy := hrules _ (.head _)
    have hnamed := hrules _ (.tail _ (.head _))
    exact ⟨by simpa using hlegacy, by simpa [hworkers] using hnamed⟩
  · rintro ⟨hlegacy, hne⟩
    simp [rules, hlegacy, hworkers, coordinators_of_same hsame, hne]

/-- Every role is given to the hosts among the lines, and nothing is pending. -/
theorem resolution_of_same (monitor : String) :
    files.resolution monitor =
      ⟨⟨parseHosts lines, parseHosts lines, monitor, parseHosts lines, parseHosts lines⟩,
        [], []⟩ := by
  have hrole : ∀ role : Role, (files role.hostsFile).isSome := fun role => by
    rw [hsame _ (List.mem_map_of_mem (Role.mem_all role))]
    rfl
  have hhosts : ∀ role : Role, files.hosts role.hostsFile = parseHosts lines :=
    fun role => hosts_of_same hsame _ (List.mem_map_of_mem (Role.mem_all role))
  have hdeprecated : files.isDeprecated = false := by
    rw [Listing.isDeprecated, hsame "managers" (by decide)]
    rfl
  simp only [Listing.resolution, Listing.hostsOrFirst, Listing.inferred, if_pos (hrole _), hhosts,
    coordinators_of_same hsame, hdeprecated]
  rw [hosts_of_same hsame "tservers" (by decide)]
  rfl

include h

/-- Files that all have the same lines give every role to the hosts among these, unless there
are none or the workers are listed under the former name of their file. -/
theorem resolve_of_same :
    ((∃ p, resolve store s = .error (.configuration p)) ↔
      store.has s "slaves" = .ok true ∨ parseHosts lines = []) ∧
    (store.has s "slaves" ≠ .ok true → ∀ first, (parseHosts lines).head? = some first →
      resolve store s = .ok ⟨⟨parseHosts lines, parseHosts lines, first, parseHosts lines,
        parseHosts lines⟩, [], []⟩) := by
  have hlegacy : store.has s "slaves" ≠ .ok true ↔ files "slaves" = none := by
    rw [h.has "slaves" (by decide)]
    simp
  by_cases hrules : files "slaves" = none ∧ parseHosts lines ≠ []
  · obtain ⟨monitor, hmonitor, hr⟩ := h.resolve_of_holds ((rules_of_same hsame).mpr hrules)
    rw [hosts_of_same hsame "monitor" (by decide), List.head?_append] at hmonitor
    refine ⟨⟨fun ⟨p, hp⟩ => ?_, fun hor => ?_⟩, fun _ first hfirst => ?_⟩
    · rw [hr] at hp
      cases hp
    · exact (hor.elim (hlegacy.mpr hrules.1) hrules.2).elim
    · rw [hfirst] at hmonitor
      obtain rfl : first = monitor := Option.some.inj hmonitor
      rw [hr, resolution_of_same hsame]
  · have hviolated : violated? files ≠ none := by
      rwa [Ne, violated?_eq_none_iff, rules_of_same hsame]
    obtain ⟨rule, hrule⟩ := Option.ne_none_iff_exists'.mp hviolated
    obtain ⟨p, hp, -⟩ := h.resolve_of_violated hrule
    have hnone : store.has s "slaves" ≠ .ok true → parseHosts lines = [] := fun hnot =>
      Decidable.byContradiction fun hne => hrules ⟨hlegacy.mp hnot, hne⟩
    refine ⟨⟨fun _ => Classical.or_iff_not_imp_left.mpr hnone, fun _ => ⟨p, hp⟩⟩, ?_⟩
    intro hnot first hfirst
    rw [hnone hnot] at hfirst
    cases hfirst

end Same

/-- What is read and resolved once the defaults are written. -/
theorem resolve_of_made {done : List Unit} {es : List Event}
    (hrun : (writeDefaults store host).run s = ⟨.ok done, s', es⟩) (shelf : Shelf store) :
    ∃ hosts, (∀ f ∈ hostsFiles, readHosts store s' f = .ok hosts) ∧
      ((∃ p, resolve store s' = .error (.configuration p)) ↔
        store.has s' "slaves" = .ok true ∨ hosts = []) ∧
      (store.has s' "slaves" ≠ .ok true → ∀ first, hosts.head? = some first →
        resolve store s' = .ok ⟨⟨hosts, hosts, first, hosts, hosts⟩, [], []⟩) := by
  have hmem : ∀ f ∈ hostsFiles, f ∈ roleFiles := fun f hf => List.mem_append_left _ hf
  obtain ⟨hhas, -, hheld, -⟩ := made_of_each shelf hmem hrun
  obtain ⟨lines, hlines⟩ := shelf.lines_content [host]
  have hread : ∀ f ∈ hostsFiles, store.read s' f = .ok lines := by
    intro f hf
    obtain ⟨c, hc, hread⟩ := shelf.read (hmem f hf) (hhas f hf)
    rw [hheld f hf] at hc
    rw [hread, ← Option.some.inj hc, hlines]
  -- No name of a hosts file is longer than that of the coordinators'.
  have hknown : Known store s' roleFiles := by
    have hshort : ∀ f ∈ roleFiles, f.utf8ByteSize ≤ "managers".utf8ByteSize := by decide
    have hmanagers : "managers" ∈ hostsFiles := by decide
    exact fun f hf => shelf.known (hmem _ hmanagers) hf (hhas _ hmanagers) (hshort f hf)
  refine ⟨parseHosts lines, fun f hf => ?_, ?_⟩
  · rw [readHosts, hread f hf]
    rfl
  · exact resolve_of_same (lists_uniform hhas hread hknown) fun f hf => if_pos hf

/-- Default files are made unless some hosts file exists that must not be overwritten, or it is
not known whether one does; then the store is left as it is, and what is reported is the files
that exist or why it is not known. Once they are made, each of the five files holds the host
that was given, and no other file has changed. The same hosts are read of all of them, and
these are all that is resolved: whatever is in other files, it is refused only if there are
none or the workers are listed under the former name of their file. -/
theorem createDefaults_resolves (shelf : Shelf store) (s : σ) (host : String)
    (overwrite : Bool) :
    let ran := (createDefaults store host overwrite).run s
    ((∃ p, ran.result = .error (.configuration p)) ↔
      overwrite = false ∧ (∀ f ∈ hostsFiles, ∃ here, store.has s f = .ok here) ∧
        ∃ f ∈ hostsFiles, store.has s f = .ok true) ∧
    (∀ p, ran.result = .error (.configuration p) → ran.state = s ∧
      p.context = [("files", .texts (hostsFiles.filter (found store s)))]) ∧
    ((∃ f ∈ hostsFiles, ∃ e, store.has s f = .error e) → ran.state = s ∧
      ∃ f ∈ hostsFiles, ∃ e, store.has s f = .error e ∧ ran.result = .error e) ∧
    ∀ names, ran.result = .ok names →
      names = hostsFiles ∧
      (∀ f ∈ hostsFiles, shelf.file? ran.state (shelf.key f) = some (shelf.content [host])) ∧
      (∀ k, (∀ f ∈ hostsFiles, k ≠ shelf.key f) →
        shelf.file? ran.state k = shelf.file? s k) ∧
      ∃ hosts, (∀ f ∈ hostsFiles, readHosts store ran.state f = .ok hosts) ∧
        ((∃ p, resolve store ran.state = .error (.configuration p)) ↔
          store.has ran.state "slaves" = .ok true ∨ hosts = []) ∧
        (store.has ran.state "slaves" ≠ .ok true → ∀ first, hosts.head? = some first →
          resolve store ran.state = .ok ⟨⟨hosts, hosts, first, hosts, hosts⟩, [], []⟩) := by
  intro ran
  rw [exists_has_iff]
  rcases createDefaults_cases shelf.fails s host overwrite with
    ⟨f, hf, e, herror, hstore, hrun⟩ | ⟨hknown, ⟨rfl, hne, hrun⟩ | ⟨hfree, hends⟩⟩
  · rw [show ran = _ from hrun]
    refine ⟨⟨fun ⟨p, hp⟩ => ?_, fun ⟨_, hknown, _⟩ => ?_⟩, fun p hp => ?_, fun _ => ?_,
      fun names hnames => nomatch hnames⟩
    · exact absurd (Except.error.inj hp) (hstore p)
    · exact absurd ⟨f, hf, e, herror⟩ (Known.no_error hknown)
    · exact absurd (Except.error.inj hp) (hstore p)
    · exact ⟨rfl, f, hf, e, herror, rfl⟩
  · rw [show ran = _ from hrun]
    refine ⟨⟨fun _ => ⟨rfl, hknown, hne⟩, fun _ => ⟨_, rfl⟩⟩, fun p hp => ?_,
      fun h => absurd h hknown.no_error, fun names hnames => nomatch hnames⟩
    cases hp
    exact ⟨rfl, rfl⟩
  have hgo : ¬ (overwrite = false ∧ Known store s hostsFiles ∧
      hostsFiles.filter (found store s) ≠ []) := by
    rintro ⟨rfl, -, hne⟩
    exact hfree.elim hne Bool.false_ne_true
  rcases hends with ⟨e, s', es, hstore, hrun⟩ | ⟨done, s', es, hwrite, hrun⟩
  · rw [show ran = _ from hrun]
    refine ⟨⟨fun ⟨p, hp⟩ => ?_, fun h => absurd h hgo⟩, fun p hp => ?_,
      fun h => absurd h hknown.no_error, fun names hnames => nomatch hnames⟩
    · exact absurd (Except.error.inj hp) (hstore p)
    · exact absurd (Except.error.inj hp) (hstore p)
  · have hmem : ∀ f ∈ hostsFiles, f ∈ roleFiles := fun f hf => List.mem_append_left _ hf
    obtain ⟨-, -, hheld, hothers⟩ := made_of_each shelf hmem hwrite
    rw [show ran = _ from hrun]
    refine ⟨⟨fun ⟨p, hp⟩ => (nomatch hp), fun h => absurd h hgo⟩, fun p hp => (nomatch hp),
      fun h => absurd h hknown.no_error, fun names hnames => ?_⟩
    exact ⟨(Except.ok.inj hnames).symm, hheld, hothers, resolve_of_made hwrite shelf⟩

/-- A host with white space around it overwrites a file, beside one with a former name. -/
theorem createDefaults_resolves_padded :
    let m : MemoryStore := { files := [("gc", ["g"]), ("masters", ["m"])] }
    let ran := (createDefaults MemoryStore.store " h\t" true).run m
    ran.result = .ok hostsFiles ∧ ran.state.lines? "gc" = some [" h\t"] ∧
      ran.state.lines? "masters" = some ["m"] ∧
      resolve MemoryStore.store ran.state = .ok ⟨⟨["h"], ["h"], "h", ["h"], ["h"]⟩, [], []⟩ := by
  intro m ran
  have hmade : ran.result = .ok hostsFiles := rfl
  obtain ⟨-, -, -, hdefaults⟩ := createDefaults_resolves MemoryStore.shelf m " h\t" true
  obtain ⟨-, hheld, hothers, hosts, hread, -, hresolve⟩ := hdefaults hostsFiles hmade
  obtain rfl : ["h"] = hosts := Except.ok.inj ((hread "gc" (by decide)).symm.trans rfl).symm
  have hother : ∀ f ∈ hostsFiles, "masters" ≠ f := by decide
  exact ⟨hmade, hheld "gc" (by decide), (hothers "masters" hother).trans rfl,
    hresolve (fun h => nomatch h) "h" rfl⟩

/-! ## A directory that is too far away -/

/-- The directory `conf`, by a path that leaves it and comes back a number of times. -/
def winding (turns : Nat) : Path := ⟨0, "conf" :: (List.replicate turns ["..", "conf"]).flatten⟩

theorem walk_winding {t : FileTree} (h : t.node? ["conf"] = some .directory) (turns : Nat) :
    t.walk ["conf"] (List.replicate turns ["..", "conf"]).flatten = .ok ["conf"] := by
  induction turns with
  | zero => rfl
  | succ turns ih =>
    rw [List.replicate_succ, List.flatten_cons]
    refine FileTree.walk_cons_eq_ok_iff.mpr ⟨by decide, rfl, ?_⟩
    exact FileTree.walk_cons_eq_ok_iff.mpr ⟨by decide, h, ih⟩

/-- The path winds, but it leads to the directory. -/
theorem leads_winding {t : FileTree} (h : t.node? ["conf"] = some .directory) (turns : Nat) :
    t.Leads (winding turns) ["conf"] where
  noNull := by
    have hnames : ∀ name ∈ (winding turns).parts, name = "conf" ∨ name = ".." := by
      simp only [winding, List.mem_cons, List.mem_flatten, List.mem_replicate]
      rintro name (rfl | ⟨names, ⟨-, rfl⟩, hname⟩)
      · exact .inl rfl
      · simpa [or_comm] using hname
    rw [List.any_eq_false]
    intro name hname
    rcases hnames name hname with rfl | rfl <;> decide
  walk := FileTree.walk_cons_eq_ok_iff.mpr ⟨by decide, h, walk_winding h turns⟩

/-- Every turn makes the path eight bytes longer. -/
theorem text_winding {name : String} (hf : DirectoryStore.Plain name) (turns : Nat) :
    (DirectoryStore.pathOf (winding turns) name).text.utf8ByteSize =
      5 + name.utf8ByteSize + 8 * turns := by
  have hsize : ("/".intercalate ((winding turns).parts ++ [name])).utf8ByteSize =
      5 + name.utf8ByteSize + 8 * turns := by
    rw [winding]
    induction turns with
    | zero =>
      have hstart : "conf/".utf8ByteSize = 5 := rfl
      simp [String.intercalate_cons_cons, String.intercalate_singleton, hstart]
    | succ turns ih =>
      have hturn : "conf/".utf8ByteSize = 5 ∧ "../".utf8ByteSize = 3 := ⟨rfl, rfl⟩
      simp [List.replicate_succ, String.intercalate_cons_cons, hturn] at ih ⊢
      omega
  rw [hf.pathOf]
  simpa [Path.text, winding] using hsize

/-- A file exists, but it is not known whether one does whose name is longer, because its path
is too long to be followed. -/
theorem has_winding {t : FileTree} {turns : Nat} {bytes : List UInt8}
    (hconf : t.node? ["conf"] = some .directory) (hgc : t.file? ["conf", "gc"] = some bytes)
    (hshort : 7 + 8 * turns ≤ FileTree.maxPathLength)
    (hlong : FileTree.maxPathLength < 13 + 8 * turns) :
    (DirectoryStore.store (winding turns)).has t "gc" = .ok true ∧
      (DirectoryStore.store (winding turns)).has t "managers" =
        .error (.file .nameTooLong (DirectoryStore.pathOf (winding turns) "managers").text) := by
  have hplain : ∀ f ∈ hostsFiles, DirectoryStore.Plain f := fun f hf =>
    DirectoryStore.plain_of_mem_roleFiles (List.mem_append_left _ hf)
  have hD := leads_winding hconf turns
  have hplain₁ := hplain "gc" (by decide)
  have hplain₂ := hplain "managers" (by decide)
  have hsize₁ : "gc".utf8ByteSize = 2 := rfl
  have hsize₂ : "managers".utf8ByteSize = 8 := rfl
  constructor
  · refine (DirectoryStore.has_eq_true_iff_file? hplain₁).mpr ⟨?_, ⟨_, hD⟩, bytes, ?_⟩
    · rw [DirectoryStore.Fits, text_winding hplain₁]
      omega
    · rwa [DirectoryStore.placeOf_eq hD]
  · have hlocate := DirectoryStore.locate_pathOf hD hplain₂
    rw [text_winding hplain₂, if_pos (by omega)] at hlocate
    simp only [DirectoryStore.store, FileTree.isFile, FileTree.at?, hlocate]
    rfl

/-- A file may exist and be in the way, and yet another problem be reported. -/
theorem createDefaults_unknown :
    let store := DirectoryStore.store (winding 511)
    let t : FileTree :=
      ⟨[(["conf"], .directory), (["conf", "gc"], .file (DirectoryStore.bytesOf ["x"]))]⟩
    let ran := (createDefaults store "localhost" false).run t
    (store.has t "gc" = .ok true ∧ ∃ path, ran.result = .error (.file .nameTooLong path)) ∧
    ¬ ((∃ p, ran.result = .error (.configuration p)) ↔
      false = false ∧ ∃ f ∈ hostsFiles, store.has t f = .ok true) := by
  intro store t ran
  obtain ⟨hgc, path, hmanagers⟩ : store.has t "gc" = .ok true ∧
      ∃ path, store.has t "managers" = .error (.file .nameTooLong path) :=
    (has_winding rfl rfl (by decide) (by decide)).imp_right fun h => ⟨_, h⟩
  have hexisting : existing store t hostsFiles = .error (.file .nameTooLong path) := by
    rw [show hostsFiles = "managers" :: hostsFiles.tail from rfl, existing, hmanagers]
    rfl
  have hran : ran = _ := createDefaults_of_error hexisting
  refine ⟨⟨hgc, path, by rw [hran]⟩, fun hiff => ?_⟩
  obtain ⟨p, hp⟩ := hiff.mpr ⟨rfl, "gc", by decide, hgc⟩
  rw [hran] at hp
  cases hp

end Resolution

end ServerFleet
