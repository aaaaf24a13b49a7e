import ServerFleet.Proofs.Directories

/-!
# The files of a tree, place by place

What is written to a tree is seen at one place: that of the file, which its path gives without
a look at the tree (`DirectoryStore.placeOf`). The directories that are made on the way are no
files, and nothing was where they are (`FileTree.Grows`).

A file may exist where no path leads. A path without `..` leads to every file in its place if
the tree is rooted, that is, if everything is in a directory (`FileTree.Rooted`).

* `makeDirectories_grows`: what it is to make directories;
* `walk_eq_foldl`: the directory that names lead to is known before they are followed;
* `walk_of_rooted`: names lead to what is there in a rooted tree;
* `DirectoryStore.wrote_of_write`: what it is to write a file of a directory.
-/

namespace ServerFleet

namespace FileTree

variable {t t' t'' : FileTree} {place D : Place} {name : String} {names : List String}

/-- The bytes of the file at a place, if there is one. -/
def file? (t : FileTree) (place : Place) : Option (List UInt8) :=
  match t.node? place with
  | some (.file bytes) => some bytes
  | _ => none

theorem file?_eq_some_iff {bytes : List UInt8} :
    t.file? place = some bytes ↔ t.node? place = some (.file bytes) := by
  unfold file?
  split <;> simp_all

theorem file?_congr {p : Place} (h : t'.node? p = t.node? p) : t'.file? p = t.file? p := by
  rw [file?, file?, h]

/-! ## Trees in which everything is in a directory -/

/-- Whatever is somewhere is in a directory. -/
def Rooted (t : FileTree) : Prop :=
  ∀ place name, (t.node? (place ++ [name])).isSome → t.node? place = some .directory

theorem isFixed_dropLast (h : isFixed place = true) : isFixed place.dropLast = true := by
  simp only [isFixed, Bool.or_eq_true, List.all_eq_true, decide_eq_true_eq] at h ⊢
  rcases h with h | rfl
  · exact .inl fun name hmem => h name (List.dropLast_subset _ hmem)
  · simp

/-- A tree is rooted if every one of its nodes is in a directory. -/
theorem rooted_of_nodes
    (h : ∀ n ∈ t.nodes, t.node? n.1.dropLast = some .directory) : t.Rooted := by
  intro place name hsome
  rw [node?] at hsome
  split at hsome
  · rename_i hfixed
    have habove : isFixed place = true := by
      simpa using isFixed_dropLast hfixed
    rw [node?, if_pos habove]
  · rw [Option.isSome_map, List.find?_isSome] at hsome
    obtain ⟨n, hmem, hplace⟩ := hsome
    have hnode := h n hmem
    rwa [of_decide_eq_true hplace, List.dropLast_concat] at hnode

/-- All that leads to something is directories. -/
theorem Rooted.node?_of_append (h : t.Rooted) {more : List String} (hne : more ≠ [])
    (hsome : (t.node? (place ++ more)).isSome) : t.node? place = some .directory := by
  induction more generalizing place with
  | nil => exact absurd rfl hne
  | cons name more ih =>
    cases more with
    | nil => exact h _ _ hsome
    | cons next more =>
      have hnext : t.node? (place ++ [name]) = some .directory :=
        ih (List.cons_ne_nil _ _) (by simpa using hsome)
      exact h place name (by simp [hnext])

/-- What is above a directory is one. -/
theorem Rooted.node?_above (h : t.Rooted) (hD : t.node? D = some .directory) :
    t.node? (above D) = some .directory := by
  rw [above]
  split
  · rename_i hall
    have hfixed : isFixed (".." :: D) = true := by
      rw [isFixed, List.all_cons, hall]
      rfl
    rw [node?, if_pos hfixed]
  · rename_i hnot
    split
    · exact hD
    · have hne : D ≠ [] := by
        rintro rfl
        exact hnot rfl
      refine h _ (D.getLast hne) ?_
      rw [List.dropLast_concat_getLast, hD]
      rfl

/-- What is put in a directory, and not in the place of one, leaves the tree rooted. -/
theorem Rooted.put (h : t.Rooted) (hD : t.node? D = some .directory)
    (hfree : t.node? (D ++ [name]) ≠ some .directory) (hfixed : isFixed (D ++ [name]) = false)
    (node : Node) : (t.put (D ++ [name]) node).Rooted := by
  intro place last hsome
  have hkept : ∀ p, t.node? p = some .directory →
      (t.put (D ++ [name]) node).node? p = some .directory := by
    intro p hp
    have hne : p ≠ D ++ [name] := by
      rintro rfl
      exact hfree hp
    rw [node?_put _ _ _ _ hfixed, if_neg hne, hp]
  by_cases hsame : place ++ [last] = D ++ [name]
  · obtain rfl : place = D := (List.append_inj' hsame rfl).1
    exact hkept place hD
  · rw [node?_put _ _ _ _ hfixed, if_neg hsame] at hsome
    exact hkept place (h place last hsome)

/-! ## Making directories -/

/-- A path that leads to a place where nothing is leads there from a directory. -/
theorem exists_directory_of_locate (h : t.Rooted) {path : Path}
    (hlocate : t.locate path = .ok place) (hnone : t.node? place = none) :
    ∃ D name, place = D ++ [name] ∧ t.node? D = some .directory := by
  rw [locate_eq] at hlocate
  split at hlocate
  · cases hlocate
  split at hlocate
  · cases hlocate
  change t.locateFrom (start path) path.parts = _ at hlocate
  rcases List.eq_nil_or_concat path.parts with hparts | ⟨names, last, hparts⟩
  · rw [hparts] at hlocate
    cases hlocate
    rw [node?_start] at hnone
    cases hnone
  · rw [hparts, List.concat_eq_append, locateFrom_append] at hlocate
    cases hwalk : t.walk (start path) names with
    | error problem => rw [hwalk] at hlocate; cases hlocate
    | ok D =>
      have hD : t.node? D = some .directory := node?_of_walk (node?_start t path) hwalk
      rw [hwalk] at hlocate
      replace hlocate : t.locateFrom D [last] = .ok place := hlocate
      rw [locateFrom] at hlocate
      split at hlocate
      · cases hlocate
      obtain rfl : step D last = place := by simpa [step] using hlocate
      rw [step] at hnone ⊢
      split at hnone
      · rw [h.node?_above hD] at hnone
        cases hnone
      · rename_i hname
        exact ⟨D, last, if_neg hname, hD⟩

/-- A tree has what it had, and else directories where nothing was. -/
structure Grows (t t' : FileTree) : Prop where
  node : ∀ p, t'.node? p = t.node? p ∨ t.node? p = none ∧ t'.node? p = some .directory
  rooted : t.Rooted → t'.Rooted

theorem Grows.refl (t : FileTree) : Grows t t := ⟨fun _ => .inl rfl, id⟩

theorem Grows.trans (h : Grows t t') (h' : Grows t' t'') : Grows t t'' where
  node p := by
    rcases h'.node p with hsame | ⟨hnone, hmade⟩
    · rw [hsame]
      exact h.node p
    · rcases h.node p with hsame | ⟨-, hmade'⟩
      · exact .inr ⟨hsame.symm.trans hnone, hmade⟩
      · rw [hmade'] at hnone
        cases hnone
  rooted hrooted := h'.rooted (h.rooted hrooted)

/-- The files are those that there were. -/
theorem Grows.file? (h : Grows t t') (p : Place) : t'.file? p = t.file? p := by
  rcases h.node p with hsame | ⟨hnone, hmade⟩
  · exact file?_congr hsame
  · rw [FileTree.file?, FileTree.file?, hnone, hmade]

theorem Grows.directory (h : Grows t t') {p : Place} (hp : t.node? p = some .directory) :
    t'.node? p = some .directory := by
  rcases h.node p with hsame | ⟨hnone, -⟩
  · exact hsame.trans hp
  · rw [hnone] at hp
    cases hp

theorem makeDirectory_grows {path : Path} (hmake : t.makeDirectory path = .ok t') :
    Grows t t' := by
  rw [makeDirectory] at hmake
  cases hlocate : t.locate path with
  | error problem => rw [hlocate] at hmake; cases hmake
  | ok place =>
    rw [hlocate] at hmake
    cases hnode : t.node? place with
    | some node => simp [hnode, bind, Except.bind] at hmake
    | none =>
      obtain rfl : t.put place .directory = t' := by
        simpa [hnode, bind, Except.bind] using hmake
      have hfixed : isFixed place = false := by
        cases hfixed : isFixed place with
        | false => rfl
        | true => simp [node?, hfixed] at hnode
      constructor
      · intro p
        rw [node?_put _ _ _ _ hfixed]
        split
        · rename_i hp
          exact .inr ⟨hp ▸ hnode, rfl⟩
        · exact .inl rfl
      · intro hrooted
        obtain ⟨D, name, rfl, hD⟩ := exists_directory_of_locate hrooted hlocate hnode
        exact hrooted.put hD (by simp [hnode]) hfixed _

/-- Making directories only makes directories, where nothing was, whether it fails or not. -/
theorem makeDirectories_grows (t : FileTree) (depth : Nat) (path : Path) :
    Grows t (t.makeDirectories depth path).2 := by
  induction depth generalizing t path with
  | zero =>
    unfold makeDirectories
    split
    · exact makeDirectory_grows (by assumption)
    · exact .refl t
    · exact .refl t
  | succ depth ih =>
    unfold makeDirectories
    split
    · exact makeDirectory_grows (by assumption)
    · have hparent := ih t path.parent
      dsimp only
      split
      · rename_i hrun
        rwa [hrun] at hparent
      · rename_i hrun
        rw [hrun] at hparent
        split
        · exact hparent.trans (makeDirectory_grows (by assumption))
        · exact hparent
    · exact .refl t

/-! ## Following names -/

/-- The directory that names lead to is known before they are followed. -/
theorem walk_eq_foldl (h : t.walk place names = .ok D) : names.foldl step place = D := by
  induction names generalizing place with
  | nil => exact Except.ok.inj h
  | cons name names ih => exact ih (walk_cons_eq_ok_iff.mp h).2.2

theorem foldl_step_of_no_above (h : ".." ∉ names) : names.foldl step place = place ++ names := by
  induction names generalizing place with
  | nil => simp
  | cons name names ih =>
    obtain ⟨hname, hnames⟩ : ".." ≠ name ∧ ".." ∉ names := by simpa using h
    rw [List.foldl_cons, ih hnames, step, if_neg (Ne.symm hname), List.append_assoc]
    rfl

/-- In a rooted tree, names without `..` lead to where something is, unless one is too long. -/
theorem walk_of_rooted (h : t.Rooted) (habove : ".." ∉ names) {last : String}
    (hsome : (t.node? (place ++ names ++ [last])).isSome) :
    t.walk place names = .ok (place ++ names) ∨ t.walk place names = .error .nameTooLong := by
  induction names generalizing place with
  | nil => exact .inl (by simp [walk])
  | cons name names ih =>
    obtain ⟨hname, hnames⟩ : ".." ≠ name ∧ ".." ∉ names := by simpa using habove
    have hsplit : place ++ name :: names ++ [last] = place ++ [name] ++ (names ++ [last]) := by
      simp
    have hnode : t.node? (place ++ [name]) = some .directory :=
      h.node?_of_append (by simp) (hsplit ▸ hsome)
    rw [walk, step, if_neg (Ne.symm hname)]
    split
    · exact .inr rfl
    · rw [hnode]
      have hrest : (t.node? (place ++ [name] ++ names ++ [last])).isSome := by simpa using hsome
      simpa using ih hnames hrest

end FileTree

namespace DirectoryStore

open FileTree

variable {dir : Path} {t t' : FileTree} {D : Place} {name other : String} {bytes : List UInt8}

/-- The place of a file of a directory, by its path alone. -/
def placeOf (dir : Path) (name : String) : Place := dir.parts.foldl step (start dir) ++ [name]

theorem placeOf_inj (h : placeOf dir name = placeOf dir other) : name = other := by
  simpa [placeOf] using h

theorem placeOf_eq (h : Leads t dir D) : placeOf dir name = D ++ [name] := by
  rw [placeOf, walk_eq_foldl h.walk]

/-- A file of a directory exists if the directory is there and the file is in its place. -/
theorem has_eq_true_iff_file? (hf : Plain name) : (store dir).has t name = .ok true ↔
    Fits dir name ∧ (∃ D, Leads t dir D) ∧ ∃ bytes, t.file? (placeOf dir name) = some bytes := by
  rw [has_eq_true_iff]
  constructor
  · rintro ⟨bytes, hat⟩
    obtain ⟨hfit, D, hD⟩ := leads_of_at? hf hat
    rw [at?_of_fits hD hf hfit] at hat
    exact ⟨hfit, ⟨D, hD⟩, bytes, file?_eq_some_iff.mpr (placeOf_eq hD ▸ Except.ok.inj hat)⟩
  · rintro ⟨hfit, ⟨D, hD⟩, bytes, hfile⟩
    refine ⟨bytes, ?_⟩
    rw [at?_of_fits hD hf hfit, ← placeOf_eq hD]
    exact congrArg Except.ok (file?_eq_some_iff.mp hfile)

/-- A file of a directory that exists is read in its place. -/
theorem read_of_has (hf : Plain name) (h : (store dir).has t name = .ok true) :
    ∃ bytes, t.file? (placeOf dir name) = some bytes ∧ (store dir).read t name = linesOf bytes := by
  obtain ⟨hfit, ⟨D, hD⟩, bytes, hfile⟩ := (has_eq_true_iff_file? hf).mp h
  refine ⟨bytes, hfile, read_of_at? ?_⟩
  rw [at?_of_fits hD hf hfit, ← placeOf_eq hD]
  exact congrArg Except.ok (file?_eq_some_iff.mp hfile)

/-- The directory is there if one of its files can be written. -/
theorem leads_of_write (hf : Plain name) (hw : t.write (pathOf dir name) bytes = .ok t') :
    ∃ D, Leads t dir D := by
  cases hlocate : t.locate (pathOf dir name) with
  | error problem =>
    rw [FileTree.write, openFile, hlocate] at hw
    cases hw
  | ok place =>
    have hat : t.at? (pathOf dir name) = .ok (t.node? place) := by rw [at?, hlocate]; rfl
    exact (leads_of_at? hf hat).2

/-- What it is to write a file of a directory. -/
structure Wrote (dir : Path) (t : FileTree) (name : String) (bytes : List UInt8)
    (t' : FileTree) : Prop where
  fits : Fits dir name
  leads : ∃ D, Leads t' dir D
  file? : ∀ p, t'.file? p = if p = placeOf dir name then some bytes else t.file? p
  directory : ∀ p, t.node? p = some .directory → t'.node? p = some .directory
  rooted : t.Rooted → t'.Rooted

theorem wrote_of_write (hf : Plain name) {lines : List String}
    (hw : (store dir).write t name lines = (.ok (), t')) :
    Wrote dir t name (bytesOf lines) t' := by
  have hmade := makeDirectories_grows t dir.parts.length dir
  change t.writeWithin dir (pathOf dir name) (bytesOf lines) = _ at hw
  rw [writeWithin, ensureDirectory] at hw
  split at hw
  · cases hw
  rename_i t₁ hrun
  rw [hrun] at hmade
  split at hw
  · rename_i t₂ hwrite
    obtain rfl : t₂ = t' := (Prod.mk.inj hw).2
    obtain ⟨D, hD⟩ := leads_of_write hf hwrite
    obtain ⟨hfit, hfree, rfl⟩ := (write_pathOf_eq_ok_iff hD hf _).mp hwrite
    have hchange := changes_put hf hfree (.file (bytesOf lines))
    have hfixed := hf.isFixed D
    refine ⟨hfit, ⟨D, hchange.leads hD⟩, fun p => ?_, fun p hp => ?_, fun hrooted => ?_⟩
    · rw [placeOf_eq hD]
      split
      · rename_i hp
        rw [hp, file?_eq_some_iff, node?_put _ _ _ _ hfixed, if_pos rfl]
      · rename_i hp
        rw [file?_congr (hchange.elsewhere p hp), hmade.file?]
    · have hne : p ≠ D ++ [name] := by
        rintro rfl
        exact hfree (hmade.directory hp)
      exact (hchange.elsewhere p hne).trans (hmade.directory hp)
    · exact (hmade.rooted hrooted).put hD.node? hfree hfixed _
  · cases hw

/-- A file that is written exists. -/
theorem Wrote.has (h : Wrote dir t name bytes t') (hf : Plain name) :
    (store dir).has t' name = .ok true :=
  (has_eq_true_iff_file? hf).mpr ⟨h.fits, h.leads, bytes, by rw [h.file?, if_pos rfl]⟩

/-- A file that exists still does when another one or itself is written. -/
theorem Wrote.stays (h : Wrote dir t name bytes t') (ho : Plain other)
    (hhas : (store dir).has t other = .ok true) : (store dir).has t' other = .ok true := by
  obtain ⟨hfit, -, kept, hfile⟩ := (has_eq_true_iff_file? ho).mp hhas
  refine (has_eq_true_iff_file? ho).mpr ⟨hfit, h.leads, ?_⟩
  rw [h.file?]
  split
  · exact ⟨bytes, rfl⟩
  · exact ⟨kept, hfile⟩

/-- The paths of two files of a directory differ by their names alone. -/
theorem text_pathOf_sub (dir : Path) (hf : Plain name) (ho : Plain other) :
    (pathOf dir name).text.utf8ByteSize + other.utf8ByteSize =
      (pathOf dir other).text.utf8ByteSize + name.utf8ByteSize := by
  rw [hf.pathOf, ho.pathOf]
  unfold Path.text
  rcases hparts : dir.parts with _ | ⟨first, rest⟩
  · simp [String.intercalate_singleton, String.utf8ByteSize_append]
    omega
  · rw [String.intercalate_append_of_ne_nil (by simp) (by simp),
      String.intercalate_append_of_ne_nil (by simp) (by simp)]
    simp [String.utf8ByteSize_append]
    omega

/-- Whether a file exists is known where a file exists whose name is no shorter. -/
theorem exists_has_of_has (hf : Plain name) (ho : Plain other)
    (hhas : (store dir).has t name = .ok true) (hle : other.utf8ByteSize ≤ name.utf8ByteSize) :
    ∃ here, (store dir).has t other = .ok here := by
  obtain ⟨hfit, ⟨D, hD⟩, -⟩ := (has_eq_true_iff_file? hf).mp hhas
  have hfit' : Fits dir other := by
    have hsub := text_pathOf_sub dir hf ho
    rw [Fits] at hfit ⊢
    omega
  simp only [store, FileTree.isFile, at?_of_fits hD ho hfit']
  cases t.node? (D ++ [other]) with
  | none => exact ⟨_, rfl⟩
  | some node => cases node <;> exact ⟨_, rfl⟩

/-- What is needed to know that a file that is not found is not there: the tree is rooted, and
the directory is there if its path has `..` in it. To make the directories that such a path
lacks may lead it to files that it did not lead to. -/
structure Sound (dir : Path) (t : FileTree) : Prop where
  rooted : t.Rooted
  leads : ".." ∈ dir.parts → ∃ D, Leads t dir D

theorem Wrote.sound (h : Wrote dir t name bytes t') (hs : Sound dir t) : Sound dir t' :=
  ⟨h.rooted hs.rooted, fun _ => h.leads⟩

/-- A file that was not found before it was written was not there. -/
theorem Wrote.missing (h : Wrote dir t name bytes t') (hf : Plain name) (hs : Sound dir t)
    (hhas : (store dir).has t name = .ok false) : t.file? (placeOf dir name) = none := by
  rw [Option.eq_none_iff_forall_ne_some]
  intro found hfile
  obtain ⟨D, hD⟩ := h.leads
  have hleads : ∃ D, Leads t dir D := by
    by_cases habove : ".." ∈ dir.parts
    · exact hs.leads habove
    have hsome : (t.node? (start dir ++ dir.parts ++ [name])).isSome := by
      rw [← foldl_step_of_no_above habove, ← placeOf, file?_eq_some_iff.mp hfile]
      rfl
    rcases walk_of_rooted hs.rooted habove hsome with hwalk | hwalk
    · exact ⟨_, hD.noNull, hwalk⟩
    · have hlocate : t.locate (pathOf dir name) = .error .nameTooLong := by
        rw [locate_pathOf_eq t dir hf, hD.noNull, if_neg Bool.false_ne_true,
          if_neg (Nat.not_lt.mpr h.fits), hwalk]
        rfl
      simp [store, FileTree.isFile, at?, hlocate, Functor.map, Except.map] at hhas
  have hthere := (has_eq_true_iff_file? hf).mpr ⟨h.fits, hleads, found, hfile⟩
  rw [hhas] at hthere
  cases hthere

end DirectoryStore

end ServerFleet
