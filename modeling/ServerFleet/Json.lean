/-!
# JSON values

The values that settings and lines of the log are made of: null, truth values,
integers of any size, doubles, texts, lists, and mappings with texts as keys, in
order.

A mapping from texts may also be to values of another kind. `Entries.set` sets a
key and keeps its place if it has one, and `Entries.update` sets all keys of
another mapping.

* `Entries.get?_set`, `Entries.get?_update`: what a mapping has for a key then.
-/

namespace ServerFleet

inductive Json where
  | null
  | bool (b : Bool)
  | int (n : Int)
  | float (x : Float)
  | text (s : String)
  | list (items : List Json)
  | map (entries : List (String × Json))

/-- A mapping from texts to values, in the order in which the keys were set. -/
abbrev Entries (α : Type := Json) := List (String × α)

namespace Entries

variable {α : Type}

def get? (e : Entries α) (key : String) : Option α := (e.find? (·.1 = key)).map (·.2)

/-- Sets `key` to `value`: in its place if it is there, at the end otherwise. -/
def set (key : String) (value : α) : Entries α → Entries α
  | [] => [(key, value)]
  | (k, v) :: e => if k = key then (k, value) :: e else (k, v) :: set key value e

/-- Sets every key of `f`. -/
def update (e f : Entries α) : Entries α := f.foldl (fun e kv => e.set kv.1 kv.2) e

theorem get?_set (e : Entries α) (key : String) (value : α) (k : String) :
    (e.set key value).get? k = if k = key then some value else e.get? k := by
  induction e with
  | nil => by_cases h : k = key <;> simp [set, get?, h, eq_comm]
  | cons kv e ih =>
    obtain ⟨k', v⟩ := kv
    simp only [get?] at ih
    by_cases h : k' = key
    · subst h
      by_cases hk : k' = k
      · subst hk; simp [set, get?]
      · simp [set, get?, hk, Ne.symm hk]
    · by_cases hk : k' = k
      · subst hk; simp [set, get?, h]
      · simp [set, get?, h, hk, ih]

theorem get?_cons (k : String) (value : α) (e : Entries α) (key : String) :
    Entries.get? ((k, value) :: e) key = if k = key then some value else e.get? key := by
  by_cases h : k = key <;> simp [get?, h]

theorem get?_append (e f : Entries α) (key : String) :
    Entries.get? (e ++ f) key = (e.get? key).or (f.get? key) := by
  simp only [get?, List.find?_append]
  cases e.find? (·.1 = key) <;> rfl

/-- The last entry for a key is the one that an update leaves. -/
theorem get?_update (e f : Entries α) (key : String) :
    (e.update f).get? key = (Entries.get? f.reverse key).or (e.get? key) := by
  induction f generalizing e with
  | nil => rfl
  | cons kv f ih =>
    obtain ⟨k, value⟩ := kv
    have hset : (e.update ((k, value) :: f)).get? key = ((e.set k value).update f).get? key := rfl
    rw [hset, ih, get?_set, List.reverse_cons, get?_append]
    by_cases h : key = k
    · subst h
      cases Entries.get? f.reverse key <;> simp [get?]
    · cases Entries.get? f.reverse key <;> simp [get?, h, Ne.symm h]

theorem get?_eq_none_iff {e : Entries α} {key : String} : e.get? key = none ↔ key ∉ e.map (·.1) := by
  simp only [get?, Option.map_eq_none_iff, List.find?_eq_none, List.mem_map, decide_eq_true_eq,
    not_exists, not_and]

/-- A mapping that has no key twice has the same values from its end. -/
theorem get?_reverse {e : Entries α} (h : (e.map (·.1)).Nodup) (key : String) :
    Entries.get? e.reverse key = e.get? key := by
  induction e with
  | nil => rfl
  | cons kv e ih =>
    obtain ⟨k, value⟩ := kv
    obtain ⟨hfresh, hrest⟩ := List.nodup_cons.mp h
    have hlast : Entries.get? [(k, value)] key = if k = key then some value else none :=
      get?_cons k value [] key
    rw [List.reverse_cons, get?_append, ih hrest, hlast, get?_cons]
    by_cases hk : k = key
    · subst hk
      simp [get?_eq_none_iff.mpr hfresh]
    · simp [hk]

end Entries

end ServerFleet
