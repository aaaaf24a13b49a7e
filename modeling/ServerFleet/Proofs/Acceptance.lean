import ServerFleet.Proofs.Inference

/-!
# Which hosts files are accepted

A topology is resolved exactly if five rules hold of the hosts files, and the first rule that
is violated is the one that is reported. The rules, and the topology that the files give, are
stated on the lines of the files that are there (`Listing`), whatever store they are in.

* `parseHosts_eq`: the hosts among lines are the stripped lines that are hosts;
* `rules`: what must hold of the files, in the order in which it is checked;
* `Lists`: what a store must answer for a listing to be what it holds;
* `Lists.resolve_of_holds`, `Lists.resolve_of_violated`: what resolving gives;
* `resolve_accepts`: when a topology is resolved, which it is, and what is reported if none is.
-/

namespace ServerFleet

namespace Resolution

/-! ## The rules -/

/-- Whether a stripped line names a host: it is not empty and no comment. -/
def isHost (line : String) : Bool := line ≠ "" && line.toList.head? ≠ some '#'

theorem hostOfLine?_eq (line : String) :
    hostOfLine? line = if isHost (Text.strip line) then some (Text.strip line) else none := by
  by_cases hempty : Text.strip line = "" <;> simp [hostOfLine?, isHost, hempty]

/-- The hosts among lines are the stripped lines that are hosts, each where it was. -/
theorem parseHosts_eq (lines : List String) :
    parseHosts lines = (lines.map Text.strip).filter isHost := by
  induction lines with
  | nil => rfl
  | cons line lines ih =>
    rw [parseHosts, List.filterMap_cons, ← parseHosts, ih, hostOfLine?_eq, List.map_cons,
      List.filter_cons]
    by_cases hhost : isHost (Text.strip line) <;> simp [hhost]

/-- The lines of the files that are there, by name. -/
abbrev Listing := String → Option (List String)

namespace Listing

variable (files : Listing)

/-- The hosts that a file names. A file that is not there names none. -/
def hosts (file : String) : List String := (((files file).getD []).map Text.strip).filter isHost

/-- The coordinators: their file may have its former name. -/
def coordinators : List String :=
  files.hosts (if (files "managers").isSome then "managers" else "masters")

/-- Whether the coordinators' file has its former name. -/
def isDeprecated : Bool := (files "managers").isNone && (files "masters").isSome

/-- The hosts of a role for which the first coordinator stands in if it has no file. -/
def hostsOrFirst (role : Role) : List String :=
  if (files role.hostsFile).isSome then files.hosts role.hostsFile else files.coordinators.take 1

/-- What is pending for such a role. -/
def inferred (role : Role) : List PendingWrite :=
  if (files role.hostsFile).isSome then []
  else [⟨role, role.hostsFile, files.coordinators.take 1⟩]

/-- What the files give with a monitor. -/
def resolution (monitor : String) : Resolution where
  topology := ⟨files.hosts "tservers", files.coordinators, monitor, files.hostsOrFirst .tracer,
    files.hostsOrFirst .garbageCollector⟩
  pending := files.inferred .tracer ++ files.inferred .garbageCollector
  warnings := if files.isDeprecated then [deprecation "masters" "managers"] else []

end Listing

/-- Something that must hold of the files, and the role and the file that are reported if it
does not. -/
structure Rule where
  role : Role
  file : String
  holds : Listing → Bool

/-- The rules, in the order in which they are checked. -/
def rules : List Rule := [
  ⟨.worker, "slaves", fun files => (files "slaves").isNone⟩,
  ⟨.worker, "tservers", fun files => files.hosts "tservers" ≠ []⟩,
  ⟨.monitor, "monitor", fun files => files.hosts "monitor" ≠ [] || files.coordinators ≠ []⟩,
  ⟨.tracer, "tracers", fun files => (files "tracers").isSome || files.coordinators ≠ []⟩,
  ⟨.garbageCollector, "gc", fun files => (files "gc").isSome || files.coordinators ≠ []⟩]

/-- The first rule that files violate. -/
def violated? (files : Listing) : Option Rule := rules.find? fun rule => !rule.holds files

theorem violated?_eq_none_iff {files : Listing} :
    violated? files = none ↔ ∀ rule ∈ rules, rule.holds files = true := by
  simp [violated?]

/-! ## What a store holds -/

variable {σ : Type} {store : Store σ} {s : σ} {files : Listing}

/-- A listing is what a store holds: the store knows which hosts files are there, and reads
the lines of those that count. The former file of the workers is never read, nor is that of
the coordinators where the present one is there. -/
structure Lists (store : Store σ) (s : σ) (files : Listing) : Prop where
  has : ∀ file ∈ roleFiles, store.has s file = .ok (files file).isSome
  read : ∀ file ∈ hostsFiles, ∀ lines, files file = some lines → store.read s file = .ok lines
  former : files "managers" = none → ∀ lines, files "masters" = some lines →
    store.read s "masters" = .ok lines

/-- A store in memory holds its files. -/
theorem lists_memory (m : MemoryStore) : Lists MemoryStore.store m m.lines? where
  has file _ := rfl
  read file _ lines h := by simp [MemoryStore.store, h]
  former _ lines h := by simp [MemoryStore.store, h]

namespace Lists

variable (h : Lists store s files)

include h

theorem readHosts {file : String} (hfile : file ∈ hostsFiles) (hthere : (files file).isSome) :
    readHosts store s file = .ok (files.hosts file) := by
  obtain ⟨lines, hlines⟩ := Option.isSome_iff_exists.mp hthere
  rw [Resolution.readHosts, h.read file hfile lines hlines, Listing.hosts, hlines]
  exact congrArg Except.ok (parseHosts_eq lines)

/-- What depends on whether a hosts file is there. -/
theorem branch {α : Type} (file : String) (hfile : file ∈ roleFiles) (a b : Except Failure α) :
    (store.has s file >>= fun here => if here then a else b) =
      if (files file).isSome then a else b := by
  rw [h.has file hfile]
  rfl

theorem resolveWorkers_of_legacy (hlegacy : (files "slaves").isSome) :
    resolveWorkers store s = problem (.legacyWorkers "slaves") := by
  refine (h.branch "slaves" (by decide) _ _).trans ?_
  rw [if_pos hlegacy]
  rfl

/-- Without the former file, the workers are those of the present one, which must name some. -/
theorem resolveWorkers_eq (hlegacy : files "slaves" = none) :
    resolveWorkers store s =
      if files.hosts "tservers" = [] then
        problem (if (files "tservers").isSome then .emptyWorkers else .missingWorkers)
      else .ok (files.hosts "tservers") := by
  refine (h.branch "slaves" (by decide) _ _).trans ?_
  rw [hlegacy]
  refine (h.branch "tservers" (by decide) _ _).trans ?_
  by_cases hthere : (files "tservers").isSome
  · rw [if_pos hthere, if_pos hthere, show Role.worker.hostsFile = "tservers" from rfl,
      h.readHosts (by decide) hthere]
    cases files.hosts "tservers" <;> rfl
  · have hnone : files.hosts "tservers" = [] := by
      simp [Listing.hosts, Option.not_isSome_iff_eq_none.mp hthere]
    rw [if_neg hthere, if_neg hthere, hnone]
    rfl

theorem resolveCoordinators_eq :
    resolveCoordinators store s = .ok (files.coordinators,
      if files.isDeprecated then [deprecation "masters" "managers"] else []) := by
  refine (h.branch "managers" (by decide) _ _).trans ?_
  rw [Listing.coordinators, Listing.isDeprecated]
  cases hcurrent : files "managers" with
  | some lines =>
    have hthere : (files "managers").isSome := by simp [hcurrent]
    show (Resolution.readHosts store s "managers" >>= _) = _
    rw [h.readHosts (by decide) hthere]
    rfl
  | none =>
    refine (h.branch "masters" (by decide) _ _).trans ?_
    cases hlegacy : files "masters" with
    | none => simp [Listing.hosts, hlegacy, pure, Except.pure]
    | some lines =>
      show (Resolution.readHosts store s "masters" >>= _) = _
      rw [Resolution.readHosts, h.former hcurrent lines hlegacy]
      show Except.ok (parseHosts lines, _) = _
      simp [parseHosts_eq, Listing.hosts, hlegacy]
      rfl

/-- The monitor is the first host of its file, or else the first coordinator. -/
theorem resolveMonitor_eq :
    resolveMonitor store s files.coordinators.head? =
      standIn .monitor (files.hosts "monitor" ++ files.coordinators).head? := by
  refine (h.branch "monitor" (by decide) _ _).trans ?_
  by_cases hthere : (files "monitor").isSome
  · rw [if_pos hthere, show Role.monitor.hostsFile = "monitor" from rfl,
      h.readHosts (by decide) hthere]
    cases files.hosts "monitor" <;> rfl
  · have hnone : files.hosts "monitor" = [] := by
      simp [Listing.hosts, Option.not_isSome_iff_eq_none.mp hthere]
    rw [if_neg hthere, hnone, List.nil_append]

/-- A role is resolved from its file, or the first coordinator stands in. -/
theorem resolveInferable_eq (role : Role)
    (hrule : (files role.hostsFile).isSome ∨ files.coordinators ≠ []) :
    resolveInferable store s role files.coordinators.head? =
      .ok (files.hostsOrFirst role, files.inferred role) := by
  refine (h.branch role.hostsFile (hostsFile_mem_roleFiles role) _ _).trans ?_
  rw [Listing.hostsOrFirst, Listing.inferred]
  by_cases hthere : (files role.hostsFile).isSome
  · rw [if_pos hthere, if_pos hthere, if_pos hthere,
      h.readHosts (List.mem_map_of_mem (Role.mem_all role)) hthere]
    rfl
  · rw [if_neg hthere, if_neg hthere, if_neg hthere]
    obtain ⟨first, rest, hcoords⟩ := List.exists_cons_of_ne_nil (hrule.resolve_left hthere)
    rw [hcoords]
    rfl

/-- Nothing stands in for a role without a file where there is no coordinator. -/
theorem resolveInferable_of_missing (role : Role) (hmissing : files role.hostsFile = none)
    (hcoords : files.coordinators = []) :
    resolveInferable store s role files.coordinators.head? = problem (.missingDefault role) := by
  refine (h.branch role.hostsFile (hostsFile_mem_roleFiles role) _ _).trans ?_
  rw [hmissing, hcoords]
  rfl

/-- Files of which every rule holds give a topology. -/
theorem resolve_of_holds (hrules : ∀ rule ∈ rules, rule.holds files = true) :
    ∃ monitor, (files.hosts "monitor" ++ files.coordinators).head? = some monitor ∧
      resolve store s = .ok (files.resolution monitor) := by
  obtain ⟨hlegacy, hworkers, hmonitor, htracers, hcollectors⟩ :
      files "slaves" = none ∧ files.hosts "tservers" ≠ [] ∧
      (files.hosts "monitor" ≠ [] ∨ files.coordinators ≠ []) ∧
      ((files "tracers").isSome ∨ files.coordinators ≠ []) ∧
      ((files "gc").isSome ∨ files.coordinators ≠ []) := by
    simpa [rules] using hrules
  obtain ⟨monitor, others, hfirst⟩ :
      ∃ monitor others, files.hosts "monitor" ++ files.coordinators = monitor :: others :=
    List.exists_cons_of_ne_nil fun hnone => by
      obtain ⟨hnamed, hcoords⟩ := List.append_eq_nil_iff.mp hnone
      exact hmonitor.elim (· hnamed) (· hcoords)
  refine ⟨monitor, congrArg List.head? hfirst, resolve_eq_ok_iff.mpr ⟨?_, h.resolveCoordinators_eq,
    ?_, _, _, h.resolveInferable_eq .tracer htracers,
    h.resolveInferable_eq .garbageCollector hcollectors, rfl⟩⟩
  · exact (h.resolveWorkers_eq hlegacy).trans (if_neg hworkers)
  · exact h.resolveMonitor_eq.trans (by rw [hfirst]; rfl)

/-- The first rule that files violate is reported. -/
theorem resolve_of_violated {rule : Rule} (hrule : violated? files = some rule) :
    ∃ p, resolve store s = .error (.configuration p) ∧
      p.context = [("role", .text rule.role.name), ("file", .text rule.file)] := by
  rw [violated?, rules] at hrule
  by_cases hlegacy : (files "slaves").isSome
  · obtain rfl : _ = rule := by simpa [hlegacy] using hrule
    refine ⟨.legacyWorkers "slaves", ?_, rfl⟩
    rw [resolve, h.resolveWorkers_of_legacy hlegacy]
    rfl
  have hlegacy := Option.not_isSome_iff_eq_none.mp hlegacy
  have hworkers := h.resolveWorkers_eq hlegacy
  by_cases hempty : files.hosts "tservers" = []
  · obtain rfl : _ = rule := by simpa [hlegacy, hempty] using hrule
    rw [if_pos hempty] at hworkers
    refine ⟨_, by rw [resolve, hworkers]; rfl, ?_⟩
    split <;> rfl
  rw [if_neg hempty] at hworkers
  -- Where there is a coordinator, no other rule can be violated.
  have hcoords : files.coordinators = [] := Decidable.byContradiction fun hcoords => by
    simp [hlegacy, hempty, hcoords] at hrule
  have hmonitor := h.resolveMonitor_eq
  by_cases hnamed : files.hosts "monitor" = []
  · obtain rfl : _ = rule := by simpa [hlegacy, hempty, hcoords, hnamed] using hrule
    rw [hnamed, hcoords] at hmonitor
    refine ⟨.missingDefault .monitor, ?_, rfl⟩
    simp only [resolve, hworkers, h.resolveCoordinators_eq, hcoords, hmonitor, bind, Except.bind]
    rfl
  obtain ⟨monitor, others, hnamed⟩ := List.exists_cons_of_ne_nil hnamed
  replace hmonitor : resolveMonitor store s files.coordinators.head? = .ok monitor := by
    rw [hmonitor, hnamed]
    rfl
  by_cases htracers : files "tracers" = none
  · obtain rfl : _ = rule := by simpa [hlegacy, hempty, hcoords, hnamed, htracers] using hrule
    have hmissing := h.resolveInferable_of_missing .tracer htracers hcoords
    refine ⟨.missingDefault .tracer, ?_, rfl⟩
    simp only [resolve, hworkers, h.resolveCoordinators_eq, hmonitor, hmissing, bind, Except.bind]
    rfl
  have htracers := Option.isSome_iff_ne_none.mpr htracers
  obtain ⟨hcollectors, rfl⟩ : files "gc" = none ∧ _ = rule := by
    simpa [hlegacy, hempty, hcoords, hnamed, htracers] using hrule
  have hfound := h.resolveInferable_eq .tracer (.inl htracers)
  have hmissing := h.resolveInferable_of_missing .garbageCollector hcollectors hcoords
  refine ⟨.missingDefault .garbageCollector, ?_, rfl⟩
  simp only [resolve, hworkers, h.resolveCoordinators_eq, hmonitor, hfound, hmissing, bind,
    Except.bind]
  rfl

end Lists

/-! ## What is accepted -/

/-- A host is not blank, has no white space around it and is no comment. -/
theorem Listing.mem_hosts {file host : String} (h : host ∈ files.hosts file) :
    host ≠ "" ∧ Text.strip host = host ∧ host.toList.head? ≠ some '#' := by
  obtain ⟨hmem, hhost⟩ := List.mem_filter.mp h
  obtain ⟨line, -, rfl⟩ := List.mem_map.mp hmem
  have hstrip : Text.strip (Text.strip line) = Text.strip line := by
    rw [Text.strip, Text.toList_strip, Text.trim_trim]
    rfl
  obtain ⟨hne, hhead⟩ : Text.strip line ≠ "" ∧ (Text.strip line).toList.head? ≠ some '#' := by
    simpa only [isHost, Bool.and_eq_true, decide_eq_true_eq] using hhost
  exact ⟨hne, hstrip, hhead⟩

/-- Every host of the topology is named by one of the files. -/
theorem Listing.mem_resolution {monitor host : String} {role : Role}
    (hmonitor : (files.hosts "monitor" ++ files.coordinators).head? = some monitor)
    (h : host ∈ (files.resolution monitor).topology.hosts role) :
    ∃ file, host ∈ files.hosts file := by
  have hcoords : ∀ host ∈ files.coordinators, ∃ file, host ∈ files.hosts file :=
    fun host hmem => ⟨_, hmem⟩
  have hinferable : ∀ role, host ∈ files.hostsOrFirst role → ∃ file, host ∈ files.hosts file := by
    intro role hmem
    rw [hostsOrFirst] at hmem
    split at hmem
    · exact ⟨_, hmem⟩
    · exact hcoords host (List.mem_of_mem_take hmem)
  cases role with
  | worker => exact ⟨_, h⟩
  | coordinator => exact hcoords host h
  | monitor =>
    obtain rfl := List.mem_singleton.mp h
    exact (List.mem_append.mp (List.mem_of_head? hmonitor)).elim (fun hmem => ⟨_, hmem⟩)
      (hcoords host)
  | tracer => exact hinferable _ h
  | garbageCollector => exact hinferable _ h

/-- A topology is resolved exactly if every rule holds of the files that the store holds, and
otherwise the role and the file of the first rule that is violated are reported. The topology,
what is pending and the warnings are those of the files, where the monitor is the first host of
its file or else the first coordinator. No host is blank, has white space around it or is a
comment. -/
theorem resolve_accepts (h : Lists store s files) :
    ((∃ r, resolve store s = .ok r) ↔ ∀ rule ∈ rules, rule.holds files = true) ∧
    (∀ rule, violated? files = some rule → ∃ p, resolve store s = .error (.configuration p) ∧
      p.context = [("role", .text rule.role.name), ("file", .text rule.file)]) ∧
    ∀ r, resolve store s = .ok r →
      (∃ monitor, (files.hosts "monitor" ++ files.coordinators).head? = some monitor ∧
        r = files.resolution monitor) ∧
      ∀ role, ∀ host ∈ r.topology.hosts role,
        host ≠ "" ∧ Text.strip host = host ∧ host.toList.head? ≠ some '#' := by
  have hviolated : ∀ rule, violated? files = some rule → ∀ r, resolve store s ≠ .ok r := by
    intro rule hrule r hr
    obtain ⟨p, herror, -⟩ := h.resolve_of_violated hrule
    rw [hr] at herror
    cases herror
  have hholds : ∀ r, resolve store s = .ok r → ∀ rule ∈ rules, rule.holds files = true :=
    fun r hr => violated?_eq_none_iff.mp
      (Option.eq_none_iff_forall_ne_some.mpr fun rule hrule => hviolated rule hrule r hr)
  refine ⟨⟨fun ⟨r, hr⟩ => hholds r hr, fun hrules => ?_⟩, fun rule => h.resolve_of_violated, ?_⟩
  · obtain ⟨monitor, -, hr⟩ := h.resolve_of_holds hrules
    exact ⟨_, hr⟩
  · intro r hr
    obtain ⟨monitor, hmonitor, hr'⟩ := h.resolve_of_holds (hholds r hr)
    obtain rfl : files.resolution monitor = r := Except.ok.inj (hr'.symm.trans hr)
    refine ⟨⟨monitor, hmonitor, rfl⟩, fun role host hmem => ?_⟩
    obtain ⟨file, hmem⟩ := Listing.mem_resolution hmonitor hmem
    exact Listing.mem_hosts hmem

/-- The coordinators' file has its former name, the tracers have none and the garbage
collectors' one is empty. -/
theorem resolve_accepts_former :
    let m : MemoryStore := { files := [("tservers", ["# workers", " w1 ", "", "w2", "w1"]),
      ("masters", ["m1\t", "m2"]), ("gc", [])] }
    resolve MemoryStore.store m = .ok {
      topology := ⟨["w1", "w2", "w1"], ["m1", "m2"], "m1", ["m1"], []⟩
      pending := [⟨.tracer, "tracers", ["m1"]⟩]
      warnings := ["Use of 'masters' is deprecated; use 'managers' instead."] } := by
  intro m
  obtain ⟨haccepts, -, hgives⟩ := resolve_accepts (lists_memory m)
  obtain ⟨r, hr⟩ := haccepts.mpr (by decide)
  obtain ⟨⟨monitor, hmonitor, rfl⟩, -⟩ := hgives r hr
  obtain rfl : "m1" = monitor := Option.some.inj hmonitor
  exact hr

end Resolution

end ServerFleet
