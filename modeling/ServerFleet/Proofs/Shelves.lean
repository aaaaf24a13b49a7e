import ServerFleet.Proofs.Inference
import ServerFleet.Proofs.Loading
import ServerFleet.Proofs.Places

/-!
# The files behind a store

A store answers for hosts files by name. What it keeps them on is its shelf (`Shelf`): every
file has a key, by which all files are told apart, those that are no hosts files included, and
a content, which is read as lines. A hosts file that is written is seen at its key, and
nothing else is. Both kinds of store have one: the keys of the files in memory are their names
(`MemoryStore.shelf`), those of the files of a tree are their places
(`DirectoryStore.shelf`).

* `Shelf`: what is behind a store, and what is known of it;
* `MemoryStore.shelf`, `DirectoryStore.shelf`: both kinds of store have one;
* `DirectoryStore.sound_of_resolve`: what is needed of a directory holds while none is removed.
-/

namespace ServerFleet

open Resolution

/-- A failure that is no problem of the configuration. -/
def Failure.OfStore (e : Failure) : Prop := ∀ p, e ≠ .configuration p

/-- What is behind a store of hosts files. -/
structure Shelf {σ : Type} (store : Store σ) where
  /-- What tells files apart. -/
  Key : Type
  /-- What a file holds. -/
  Content : Type
  file? : σ → Key → Option Content
  key : String → Key
  /-- What a file holds that is written with lines. -/
  content : List String → Content
  /-- The lines that are read of what a file holds. -/
  lines : Content → Except Failure (List String)
  /-- What is needed to know that a file that is not found is not there. -/
  Sound : σ → Prop
  fails : store.FailsAs Failure.OfStore
  key_inj {f g : String} : f ∈ roleFiles → g ∈ roleFiles → key f = key g → f = g
  /-- What is written can be read. -/
  lines_content (ls : List String) : ∃ ls', lines (content ls) = .ok ls'
  /-- A host that was read is read as it is written. -/
  lines_named {host : String} : Named store host → lines (content [host]) = .ok [host]
  /-- A file that exists is read at its key. -/
  read {s : σ} {f : String} : f ∈ roleFiles → store.has s f = .ok true →
    ∃ c, file? s (key f) = some c ∧ store.read s f = lines c
  /-- A file that is written exists. -/
  has {s s' : σ} {f : String} {ls : List String} : f ∈ roleFiles →
    store.write s f ls = (.ok (), s') → store.has s' f = .ok true
  /-- What is written is at its key. -/
  written {s s' : σ} {f : String} {ls : List String} : f ∈ roleFiles →
    store.write s f ls = (.ok (), s') → file? s' (key f) = some (content ls)
  /-- To write a file changes nothing else. -/
  others {s s' : σ} {f : String} {ls : List String} {k : Key} : f ∈ roleFiles →
    store.write s f ls = (.ok (), s') → k ≠ key f → file? s' k = file? s k
  /-- A file that exists still does when any is written. -/
  stays {s s' : σ} {f g : String} {ls : List String} : f ∈ roleFiles → g ∈ roleFiles →
    store.write s f ls = (.ok (), s') → store.has s g = .ok true → store.has s' g = .ok true
  /-- Whether a file exists is known where one exists whose name is no shorter. -/
  known {s : σ} {f g : String} : f ∈ roleFiles → g ∈ roleFiles → store.has s f = .ok true →
    g.utf8ByteSize ≤ f.utf8ByteSize → ∃ here, store.has s g = .ok here
  sound {s s' : σ} {f : String} {ls : List String} : f ∈ roleFiles →
    store.write s f ls = (.ok (), s') → Sound s → Sound s'
  /-- A file that was not found before it was written was not there. -/
  missing {s s' : σ} {f : String} {ls : List String} : f ∈ roleFiles →
    store.write s f ls = (.ok (), s') → Sound s → store.has s f = .ok false →
    file? s (key f) = none

namespace MemoryStore

/-- The files in memory, by their names. -/
def shelf : Shelf store where
  Key := String
  Content := List String
  file? := lines?
  key := id
  content := id
  lines := .ok
  Sound _ := True
  fails := {
    has _ _ := trivial
    read m name := by
      simp only [store]
      split
      · trivial
      · exact fun p => Failure.noConfusion
    write _ _ _ := trivial }
  key_inj _ _ h := h
  lines_content ls := ⟨ls, rfl⟩
  lines_named _ := rfl
  read {m f} _ h := by
    obtain ⟨lines, hlines⟩ := Option.isSome_iff_exists.mp (Except.ok.inj h)
    exact ⟨lines, hlines, by simp [store, hlines]⟩
  has {m m' f ls} _ hw := by
    obtain rfl : m.write f ls = m' := (Prod.mk.inj hw).2
    simp [store, lines?_write]
  written {m m' f ls} _ hw := by
    obtain rfl : m.write f ls = m' := (Prod.mk.inj hw).2
    exact (lines?_write ..).trans (if_pos rfl)
  others {m m' f ls k} _ hw hne := by
    obtain rfl : m.write f ls = m' := (Prod.mk.inj hw).2
    exact (lines?_write ..).trans (if_neg hne)
  stays {m m' f g ls} _ _ hw h := by
    obtain rfl : m.write f ls = m' := (Prod.mk.inj hw).2
    have hsome : (m.lines? g).isSome := Except.ok.inj h
    by_cases hfg : g = f <;> simp [store, lines?_write, hfg, hsome]
  known _ _ _ _ := ⟨_, rfl⟩
  sound _ _ _ := trivial
  missing {m _ f _} _ _ _ h := by
    have hnot : (m.lines? f).isSome = false := Except.ok.inj h
    simpa using hnot

end MemoryStore

namespace DirectoryStore

theorem ofStore_of_ofFiles {e : Failure} (h : e.OfFiles) : e.OfStore := by
  rintro p rfl
  exact h

/-- The files of a tree, by their places. -/
def shelf (dir : Path) : Shelf (store dir) where
  Key := Place
  Content := List UInt8
  file? := FileTree.file?
  key := placeOf dir
  content := bytesOf
  lines := linesOf
  Sound := Sound dir
  fails := {
    has t name := ((failsAs dir).has t name).imp fun _ => ofStore_of_ofFiles
    read t name := ((failsAs dir).read t name).imp fun _ => ofStore_of_ofFiles
    write t name lines := ((failsAs dir).write t name lines).imp fun _ => ofStore_of_ofFiles }
  key_inj _ _ h := placeOf_inj h
  lines_content ls := by
    rw [linesOf, bytesOf, Text.Utf8.decode_encode]
    exact ⟨_, rfl⟩
  lines_named h := linesOf_bytesOf fun l hl => List.mem_singleton.mp hl ▸ unbroken_of_named h
  read hf h := read_of_has (plain_of_mem_roleFiles hf) h
  has hf hw :=
    have hplain := plain_of_mem_roleFiles hf
    (wrote_of_write hplain hw).has hplain
  written hf hw := by rw [(wrote_of_write (plain_of_mem_roleFiles hf) hw).file?, if_pos rfl]
  others hf hw hne := by rw [(wrote_of_write (plain_of_mem_roleFiles hf) hw).file?, if_neg hne]
  stays hf hg hw h :=
    (wrote_of_write (plain_of_mem_roleFiles hf) hw).stays (plain_of_mem_roleFiles hg) h
  known hf hg h hle :=
    exists_has_of_has (plain_of_mem_roleFiles hf) (plain_of_mem_roleFiles hg) h hle
  sound hf hw hs := (wrote_of_write (plain_of_mem_roleFiles hf) hw).sound hs
  missing hf hw hs h :=
    have hplain := plain_of_mem_roleFiles hf
    (wrote_of_write hplain hw).missing hplain hs h

/-- Since a directory was resolved, files may have been added, edited and removed in any way:
it is still known that a file that is not found is not there. -/
theorem sound_of_resolve {dir : Path} {t₀ t : FileTree} {r : Resolution}
    (hr : resolve (store dir) t₀ = .ok r) (hrooted : t.Rooted)
    (hkept : ∀ p, t₀.node? p = some .directory → t.node? p = some .directory) : Sound dir t := by
  have hworkers : (store dir).has t₀ Role.worker.hostsFile = .ok true :=
    has_of_resolveWorkers (resolve_eq_ok_iff.mp hr).1
  have hplain := plain_of_mem_roleFiles (hostsFile_mem_roleFiles Role.worker)
  obtain ⟨-, ⟨D, hD⟩, -⟩ := (has_eq_true_iff_file? hplain).mp hworkers
  exact ⟨hrooted, fun _ => ⟨D, hD.noNull, FileTree.walk_mono hkept hD.walk⟩⟩

end DirectoryStore

end ServerFleet
