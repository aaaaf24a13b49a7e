import ServerFleet.Store

/-!
# A store in memory

The files are lists of lines. The store remembers the names written to, in
order.

* `lines?_write`: a file holds what was written to it, and the others stay.
-/

namespace ServerFleet

structure MemoryStore where
  files : List (String × List String) := []
  /-- The names of the files written, in order. -/
  writes : List String := []
  deriving DecidableEq

namespace MemoryStore

def lines? (m : MemoryStore) (name : String) : Option (List String) :=
  (m.files.find? (·.1 = name)).map (·.2)

/-- Sets the lines of a file. -/
def setLines (name : String) (lines : List String) :
    List (String × List String) → List (String × List String)
  | [] => [(name, lines)]
  | (n, l) :: rest => if n = name then (n, lines) :: rest else (n, l) :: setLines name lines rest

def write (m : MemoryStore) (name : String) (lines : List String) : MemoryStore where
  files := setLines name lines m.files
  writes := m.writes ++ [name]

theorem find?_setLines (name n : String) (lines : List String)
    (files : List (String × List String)) :
    (setLines name lines files).find? (·.1 = n) =
      if n = name then some (name, lines) else files.find? (·.1 = n) := by
  induction files with
  | nil => by_cases h : n = name <;> simp [setLines, h, eq_comm]
  | cons f files ih =>
    obtain ⟨n', l⟩ := f
    by_cases h : n' = name
    · subst h
      by_cases hn : n = n'
      · subst hn; simp [setLines]
      · simp [setLines, hn, Ne.symm hn]
    · by_cases hn : n' = n
      · subst hn; simp [setLines, h]
      · simp [setLines, h, hn, ih]

theorem lines?_write (m : MemoryStore) (name n : String) (lines : List String) :
    (m.write name lines).lines? n = if n = name then some lines else m.lines? n := by
  by_cases h : n = name <;> simp [lines?, write, find?_setLines, h]

/-- Takes a file away. -/
def remove (m : MemoryStore) (name : String) : Except Failure MemoryStore :=
  if (m.lines? name).isSome then .ok { m with files := m.files.filter (·.1 ≠ name) }
  else .error (.noEntry name)

/-- The store in memory. -/
def store : Store MemoryStore where
  has m name := .ok (m.lines? name).isSome
  read m name := match m.lines? name with
    | some lines => .ok lines
    | none => .error (.noEntry name)
  write m name lines := (.ok (), m.write name lines)

end MemoryStore

end ServerFleet
