import ServerFleet.Proofs.Encoding
import ServerFleet.Store.Directory

/-!
# The files of a directory

Where the files of one directory are found, and what changes when one of them is
written. A path is followed as far as its last name by `FileTree.walk`, on which every
name leads to a directory; so the files of a directory share their way (`Leads`), and a
change to one of them, which is no directory, does not block it.

* `locate_pathOf`: where the path of a file leads once the directory is there;
* `leads_of_at?`: the directory is there if anything is known of one of its files;
* `at?_pathOf_congr`: a change to a file is not seen by the paths of the others;
* `at?_of_write`, `at?_of_remove`: what the paths of all files lead to once one file is
  written or taken away;
* `linesOf_bytesOf`: lines without line breaks are read as they were written.
-/

namespace ServerFleet

/-- Two steps that give a result both do. -/
theorem bind_eq_ok {α β : Type} {x : Except Failure α} {f : α → Except Failure β} {y : β}
    (h : (x >>= f) = .ok y) : ∃ a, x = .ok a ∧ f a = .ok y := by
  cases x with
  | error e => cases h
  | ok a => exact ⟨a, rfl, h⟩

namespace FileTree

/-- The place that a name leads to from a directory. -/
def step (place : Place) (name : String) : Place :=
  if name = ".." then above place else place ++ [name]

/-- The directory that names lead to from a directory, if each leads to one. -/
def walk (t : FileTree) (place : Place) : List String → Except FileProblem Place
  | [] => .ok place
  | name :: names =>
    if maxNameLength < name.utf8ByteSize then .error .nameTooLong
    else match t.node? (step place name) with
      | some .directory => walk t (step place name) names
      | some (.file _) => .error .notDirectory
      | none => .error .notFound

variable {t t' : FileTree} {place D : Place} {names : List String}

/-- Names are followed to the directory that all but the last lead to, and from there. -/
theorem locateFrom_append (t : FileTree) (place : Place) (names : List String) (last : String) :
    t.locateFrom place (names ++ [last]) =
      (t.walk place names >>= fun D => t.locateFrom D [last]) := by
  induction names generalizing place with
  | nil => rfl
  | cons name names ih =>
    have more : (names ++ [last]).isEmpty = false := by cases names <;> rfl
    rw [List.cons_append, locateFrom, walk]
    split
    · rfl
    simp only [more, Bool.false_eq_true, if_false, ← step.eq_def]
    cases t.node? (step place name) with
    | none => rfl
    | some node => cases node with
      | file bytes => rfl
      | directory => exact ih _

/-- Names lead to a directory if the first does and the others do from there. -/
theorem walk_cons_eq_ok_iff {name : String} : t.walk place (name :: names) = .ok D ↔
    name.utf8ByteSize ≤ maxNameLength ∧ t.node? (step place name) = some .directory ∧
      t.walk (step place name) names = .ok D := by
  rw [walk]
  split
  · rename_i hlong
    simp [Nat.not_le.mpr hlong]
  · rename_i hshort
    cases t.node? (step place name) with
    | none => simp
    | some node => cases node <;> simp [Nat.not_lt.mp hshort]

theorem locateFrom_of_walk (h : t.walk place names = .ok D) : t.locateFrom place names = .ok D := by
  induction names generalizing place with
  | nil => exact h
  | cons name names ih =>
    obtain ⟨hshort, hnode, hrest⟩ := walk_cons_eq_ok_iff.mp h
    rw [locateFrom, if_neg (Nat.not_lt.mpr hshort)]
    simp only [← step.eq_def, hnode, ih hrest]
    cases names with
    | nil => exact hrest
    | cons next names => rfl

theorem node?_of_walk (hstart : t.node? place = some .directory)
    (h : t.walk place names = .ok D) : t.node? D = some .directory := by
  induction names generalizing place with
  | nil =>
    cases h
    exact hstart
  | cons name names ih =>
    obtain ⟨-, hnode, hrest⟩ := walk_cons_eq_ok_iff.mp h
    exact ih hnode hrest

/-- A way is as it was where every directory still is one. -/
theorem walk_mono (hkept : ∀ p, t.node? p = some .directory → t'.node? p = some .directory)
    (h : t.walk place names = .ok D) : t'.walk place names = .ok D := by
  induction names generalizing place with
  | nil => exact h
  | cons name names ih =>
    obtain ⟨hshort, hnode, hrest⟩ := walk_cons_eq_ok_iff.mp h
    exact walk_cons_eq_ok_iff.mpr ⟨hshort, hkept _ hnode, ih hrest⟩

/-- Where a path begins. -/
def start (path : Path) : Place := if path.slashes = 0 then [] else ["/"]

theorem node?_start (t : FileTree) (path : Path) : t.node? (start path) = some .directory := by
  unfold start node?
  split <;> rfl

/-- A path leads to a directory by directories alone. -/
structure Leads (t : FileTree) (path : Path) (D : Place) : Prop where
  noNull : path.parts.any (fun name => name.toList.contains '\x00') = false
  walk : t.walk (start path) path.parts = .ok D

theorem Leads.node? {dir : Path} (h : Leads t dir D) : t.node? D = some .directory :=
  node?_of_walk (node?_start t dir) h.walk

/-- A directory that is there is not made anew. -/
theorem ensureDirectory_of_leads {dir : Path} (h : Leads t dir D)
    (hfit : dir.text.utf8ByteSize ≤ maxPathLength) : t.ensureDirectory dir = (.ok (), t) := by
  have hlocate : t.locate dir = .ok D := by
    rw [locate_eq, h.noNull, if_neg Bool.false_ne_true, if_neg (by omega)]
    exact locateFrom_of_walk h.walk
  have hmake : t.makeDirectory dir = .error .alreadyExists := by
    simp [makeDirectory, hlocate, bind, Except.bind, h.node?]
  have hdir : t.isDirectory dir = true := by
    simp [isDirectory, at?, hlocate, Functor.map, Except.map, h.node?]
  rw [ensureDirectory, makeDirectories.eq_def, hmake]
  simp [hdir]

end FileTree

namespace DirectoryStore

open FileTree

/-- A name that names a file of any directory: it has one part, which is neither the
directory above nor longer than a name may be. -/
structure Plain (name : String) : Prop where
  parse : Path.parse name = ⟨0, [name]⟩
  noNull : name.toList.contains '\x00' = false
  short : name.utf8ByteSize ≤ maxNameLength
  notAbove : name ≠ ".."

variable {dir : Path} {t t' : FileTree} {D : Place} {name other : String}

theorem Plain.pathOf (h : Plain name) (dir : Path) :
    pathOf dir name = { dir with parts := dir.parts ++ [name] } := by
  simp [DirectoryStore.pathOf, Path.join, h.parse]

theorem Plain.ne_empty (h : Plain name) : name ≠ "" := by
  rintro rfl
  exact absurd h.parse (by decide)

/-- No file stands where there is always a directory. -/
theorem Plain.isFixed (h : Plain name) (D : Place) : isFixed (D ++ [name]) = false := by
  have hroot : name ≠ "/" := by
    rintro rfl
    exact absurd h.parse (by decide)
  cases D with
  | nil => simp [FileTree.isFixed, h.notAbove, hroot]
  | cons first rest => simp [FileTree.isFixed, h.notAbove]

/-- The path of a directory is no longer than those of its files. -/
theorem Plain.text_le (h : Plain name) (dir : Path) :
    dir.text.utf8ByteSize ≤ (DirectoryStore.pathOf dir name).text.utf8ByteSize := by
  have hone : 1 ≤ name.utf8ByteSize :=
    Nat.pos_of_ne_zero fun hzero => h.ne_empty (String.utf8ByteSize_eq_zero_iff.mp hzero)
  have hdot : ".".utf8ByteSize = 1 := rfl
  rw [h.pathOf]
  unfold Path.text
  rcases hparts : dir.parts with _ | ⟨first, rest⟩
  · by_cases hs : dir.slashes = 0
    · simp [hs, String.intercalate_singleton, hdot, hone]
    · simp [hs, String.intercalate_singleton]
  · rw [String.intercalate_append_of_ne_nil (by simp) (by simp)]
    simp [String.utf8ByteSize_append]
    omega

/-- Whether the path of a file is short enough to be followed. -/
def Fits (dir : Path) (name : String) : Prop :=
  (pathOf dir name).text.utf8ByteSize ≤ maxPathLength

/-- The path of a file is followed to its directory, and from there by one name. -/
theorem locate_pathOf_eq (t : FileTree) (dir : Path) (hf : Plain name) :
    t.locate (pathOf dir name) =
      if dir.parts.any fun n => n.toList.contains '\x00' then .error .embeddedNull
      else if maxPathLength < (pathOf dir name).text.utf8ByteSize then .error .nameTooLong
      else (· ++ [name]) <$> t.walk (start dir) dir.parts := by
  have hnull : (pathOf dir name).parts.any (fun n => n.toList.contains '\x00') =
      dir.parts.any fun n => n.toList.contains '\x00' := by
    rw [hf.pathOf, List.any_append, List.any_cons, hf.noNull]
    simp
  have hlast : ∀ D, t.locateFrom D [name] = .ok (D ++ [name]) := fun D => by
    simp [locateFrom, Nat.not_lt.mpr hf.short, hf.notAbove]
  have hfollow : t.locateFrom (start dir) (dir.parts ++ [name]) =
      (· ++ [name]) <$> t.walk (start dir) dir.parts := by
    simp only [locateFrom_append, hlast]
    cases t.walk (start dir) dir.parts <;> rfl
  rw [locate_eq, hnull, ← hfollow, hf.pathOf, start]

/-- Where the path of a file leads once the directory is there. -/
theorem locate_pathOf (h : Leads t dir D) (hf : Plain name) :
    t.locate (pathOf dir name) =
      if maxPathLength < (pathOf dir name).text.utf8ByteSize then .error .nameTooLong
      else .ok (D ++ [name]) := by
  rw [locate_pathOf_eq t dir hf, h.noNull, h.walk, if_neg Bool.false_ne_true]
  rfl

theorem locate_of_fits (h : Leads t dir D) (hf : Plain name) (hfit : Fits dir name) :
    t.locate (pathOf dir name) = .ok (D ++ [name]) := by
  rw [locate_pathOf h hf, if_neg (Nat.not_lt.mpr hfit)]

theorem at?_of_fits (h : Leads t dir D) (hf : Plain name) (hfit : Fits dir name) :
    t.at? (pathOf dir name) = .ok (t.node? (D ++ [name])) := by
  rw [at?, locate_of_fits h hf hfit]
  rfl

/-- The directory is there if it is known what one of its files leads to. -/
theorem leads_of_at? (hf : Plain name) {node : Option Node}
    (h : t.at? (pathOf dir name) = .ok node) : Fits dir name ∧ ∃ D, Leads t dir D := by
  rw [at?, locate_pathOf_eq t dir hf] at h
  split at h
  · cases h
  rename_i hnull
  split at h
  · cases h
  rename_i hfit
  refine ⟨Nat.not_lt.mp hfit, ?_⟩
  cases hwalk : t.walk (start dir) dir.parts with
  | error problem => rw [hwalk] at h; cases h
  | ok D => exact ⟨D, by simpa using hnull, hwalk⟩

/-! ## Changes to a file -/

/-- A file is changed in its place: nothing else is, and no directory was or is there. -/
structure Changes (t t' : FileTree) (place : Place) : Prop where
  elsewhere : ∀ p, p ≠ place → t'.node? p = t.node? p
  noDirectory : t.node? place ≠ some .directory

theorem Changes.leads (hc : Changes t t' (D ++ [name])) (h : Leads t dir D) : Leads t' dir D where
  noNull := h.noNull
  walk := by
    refine walk_mono (fun p hp => ?_) h.walk
    have hne : p ≠ D ++ [name] := by
      rintro rfl
      exact hc.noDirectory hp
    rw [hc.elsewhere p hne, hp]

/-- A change to a file is not seen by the paths of the others. -/
theorem at?_pathOf_congr (hc : Changes t t' (D ++ [name])) (h : Leads t dir D)
    (ho : Plain other) (hne : other ≠ name) :
    t'.at? (pathOf dir other) = t.at? (pathOf dir other) := by
  have hplace : D ++ [other] ≠ D ++ [name] := by simpa using hne
  rw [at?, at?, locate_pathOf h ho, locate_pathOf (hc.leads h) ho]
  split
  · rfl
  · exact congrArg Except.ok (hc.elsewhere _ hplace)

theorem changes_put (hf : Plain name) (hnode : t.node? (D ++ [name]) ≠ some .directory)
    (node : Node) : Changes t (t.put (D ++ [name]) node) (D ++ [name]) where
  elsewhere p hp := by rw [node?_put _ _ _ _ (hf.isFixed D), if_neg hp]
  noDirectory := hnode

theorem changes_erase (hf : Plain name) (hnode : t.node? (D ++ [name]) ≠ some .directory) :
    Changes t (t.erase (D ++ [name])) (D ++ [name]) where
  elsewhere p hp := by rw [node?_erase _ _ _ (hf.isFixed D), if_neg hp]
  noDirectory := hnode

/-- A file that is written is put in its place, where no directory may be. -/
theorem write_pathOf_eq_ok_iff (h : Leads t dir D) (hf : Plain name) (bytes : List UInt8) :
    t.write (pathOf dir name) bytes = .ok t' ↔
      Fits dir name ∧ t.node? (D ++ [name]) ≠ some .directory ∧
        t' = t.put (D ++ [name]) (.file bytes) := by
  by_cases hfit : Fits dir name
  · rw [FileTree.write, openFile, locate_of_fits h hf hfit]
    dsimp only
    cases hnode : t.node? (D ++ [name]) with
    | none => simp [hfit, Functor.map, Except.map, eq_comm]
    | some node => cases node <;> simp [hfit, Functor.map, Except.map, eq_comm]
  · rw [FileTree.write, openFile, locate_pathOf h hf, if_pos (Nat.not_le.mp hfit)]
    simp [hfit, Functor.map, Except.map]

/-- To write a file of a directory that is there is no more than that. -/
theorem writeWithin_of_leads (h : Leads t dir D) (ho : Plain other) (hfit : Fits dir other)
    (path : Path) (bytes : List UInt8) :
    t.writeWithin dir path bytes = match t.write path bytes with
      | .ok t' => (.ok (), t')
      | .error e => (.error e, t) := by
  have hmade := ensureDirectory_of_leads h (Nat.le_trans (ho.text_le dir) hfit)
  cases hw : t.write path bytes <;> simp [writeWithin, hmade, hw]

/-- What a file that is written leads to, and that the others lead where they did. -/
theorem at?_of_write (h : Leads t dir D) (hf : Plain name) {bytes : List UInt8}
    (hw : t.write (pathOf dir name) bytes = .ok t') :
    t'.at? (pathOf dir name) = .ok (some (.file bytes)) ∧
      ∀ other, Plain other → other ≠ name →
        t'.at? (pathOf dir other) = t.at? (pathOf dir other) := by
  obtain ⟨hfit, hnode, rfl⟩ := (write_pathOf_eq_ok_iff h hf bytes).mp hw
  have hc := changes_put hf hnode (.file bytes)
  refine ⟨?_, fun other ho hne => at?_pathOf_congr hc h ho hne⟩
  rw [at?_of_fits (hc.leads h) hf hfit, node?_put _ _ _ _ (hf.isFixed D), if_pos rfl]

/-- A file that is taken away is not found, and the others lead where they did. -/
theorem at?_of_remove (h : Leads t dir D) (hf : Plain name)
    (hr : t.remove (pathOf dir name) = .ok t') :
    t'.at? (pathOf dir name) = .ok none ∧
      ∀ other, Plain other → other ≠ name →
        t'.at? (pathOf dir other) = t.at? (pathOf dir other) := by
  have hfit : Fits dir name := by
    by_cases hfit : Fits dir name
    · exact hfit
    · rw [FileTree.remove, locate_pathOf h hf, if_pos (Nat.not_le.mp hfit)] at hr
      cases hr
  rw [FileTree.remove, locate_of_fits h hf hfit] at hr
  dsimp only at hr
  split at hr
  · rename_i bytes hnode
    cases hr
    have hc := changes_erase hf (by rw [hnode]; simp)
    refine ⟨?_, fun other ho hne => at?_pathOf_congr hc h ho hne⟩
    rw [at?_of_fits (hc.leads h) hf hfit, node?_erase _ _ _ (hf.isFixed D), if_pos rfl]
  · cases hr
  · cases hr

/-! ## The store in a directory -/

/-- Lines without breaks are read as they were written. -/
theorem linesOf_bytesOf {lines : List String} (h : ∀ l ∈ lines, Text.Unbroken l) :
    linesOf (bytesOf lines) = .ok lines := by
  rw [linesOf, bytesOf, Text.Utf8.decode_encode]
  exact congrArg Except.ok (Text.lines_uniform_unlines h)

theorem unbroken_of_read {lines : List String} (h : (store dir).read t name = .ok lines) :
    ∀ l ∈ lines, Text.Unbroken l := by
  obtain ⟨bytes, -, hlines⟩ := bind_eq_ok h
  rw [linesOf] at hlines
  split at hlines
  · cases hlines
    exact fun l hl => Text.unbroken_lines hl
  · cases hlines

/-- Whether there is a file, and what is read of it, is as its path has it. -/
theorem has_congr (h : t'.at? (pathOf dir name) = t.at? (pathOf dir name)) :
    (store dir).has t' name = (store dir).has t name := by
  simp only [store, FileTree.isFile, h]

theorem read_congr (h : t'.at? (pathOf dir name) = t.at? (pathOf dir name)) :
    (store dir).read t' name = (store dir).read t name := by
  simp only [store, read, FileTree.read, h]

theorem has_eq_true_iff : (store dir).has t name = .ok true ↔
    ∃ bytes, t.at? (pathOf dir name) = .ok (some (.file bytes)) := by
  simp only [store, FileTree.isFile]
  split <;> simp_all

theorem read_of_at? {bytes : List UInt8}
    (h : t.at? (pathOf dir name) = .ok (some (.file bytes))) :
    (store dir).read t name = linesOf bytes := by
  simp only [store, read, FileTree.read, h]
  rfl

end DirectoryStore

end ServerFleet
