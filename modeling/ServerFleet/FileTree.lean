import ServerFleet.Failure

/-!
# Directories and files

A tree of directories below the current one. A file or directory is found by
its place: the names that lead to it. Every directory on the way has a node of
its own, except the current directory and those above it, which are always
there.

Paths are resolved name by name (`FileTree.locate`), so each name but the last
must lead to a directory, and `..` leads to the directory that holds the one
reached so far.

* `node?_put`: a node is found again where it was put, and the others stay;
* `node?_erase`: a node that was taken away is not found, and the others stay;
* `locate_eq`: how a path is followed.
-/

namespace ServerFleet

/-- The bytes of a file, or a directory. -/
inductive Node where
  | file (bytes : List UInt8)
  | directory
  deriving DecidableEq

/-- Where a node is: the names that lead to it from the current directory. The
root directory is `/`, and the directories above the current one are `..`,
`..` twice and so on. -/
abbrev Place := List String

structure FileTree where
  nodes : List (Place × Node) := []
  deriving DecidableEq

namespace FileTree

/-- Sets the node of a place: in its place in the list if it has one. -/
def putIn (place : Place) (node : Node) : List (Place × Node) → List (Place × Node)
  | [] => [(place, node)]
  | (p, n) :: rest => if p = place then (p, node) :: rest else (p, n) :: putIn place node rest

def put (t : FileTree) (place : Place) (node : Node) : FileTree := ⟨putIn place node t.nodes⟩

/-- Whether a place is a directory that needs no node. -/
def isFixed (place : Place) : Bool := place.all (· = "..") || place = ["/"]

/-- What is at a place. -/
def node? (t : FileTree) (place : Place) : Option Node :=
  if isFixed place then some .directory else (t.nodes.find? (·.1 = place)).map (·.2)

theorem find?_putIn (place p : Place) (node : Node) (nodes : List (Place × Node)) :
    (putIn place node nodes).find? (·.1 = p) =
      if p = place then some (place, node) else nodes.find? (·.1 = p) := by
  induction nodes with
  | nil => by_cases h : p = place <;> simp [putIn, h, eq_comm]
  | cons pn nodes ih =>
    obtain ⟨p', n⟩ := pn
    by_cases h : p' = place
    · subst h
      by_cases hp : p = p'
      · subst hp; simp [putIn]
      · simp [putIn, hp, Ne.symm hp]
    · by_cases hp : p' = p
      · subst hp; simp [putIn, h]
      · simp [putIn, h, hp, ih]

/-- A node is found again where it was put, and the others stay. -/
theorem node?_put (t : FileTree) (place p : Place) (node : Node) (h : isFixed place = false) :
    (t.put place node).node? p = if p = place then some node else t.node? p := by
  by_cases hp : p = place
  · subst hp; simp [node?, put, h, find?_putIn]
  · simp [node?, put, find?_putIn, hp]

/-- Takes the node of a place away. -/
def erase (t : FileTree) (place : Place) : FileTree := ⟨t.nodes.filter (·.1 ≠ place)⟩

/-- A node that was taken away is not found, and the others stay. -/
theorem node?_erase (t : FileTree) (place p : Place) (h : isFixed place = false) :
    (t.erase place).node? p = if p = place then none else t.node? p := by
  by_cases hp : p = place
  · subst hp
    simp [node?, erase, h]
  · have : ∀ n : Place × Node, (n.1 ≠ place ∧ n.1 = p) ↔ n.1 = p :=
      fun n => ⟨And.right, fun same => ⟨same ▸ hp, same⟩⟩
    simp [node?, erase, hp, List.find?_filter, this]

/-- Whether a place is in the current directory or below it. -/
def isBelow (place : Place) : Bool := place.head? ≠ some "/" && place.head? ≠ some ".."

/-- Whether one place holds another one. -/
def holds (place p : Place) : Bool :=
  place.length + 1 = p.length && place.isPrefixOf p

/-- The files and the empty directories below the current one. -/
def leaves (t : FileTree) : List (Place × Node) :=
  t.nodes.filter fun n =>
    isBelow n.1 && (n.2 ≠ .directory || !t.nodes.any fun m => holds n.1 m.1)

/-- The place above another one. -/
def above (place : Place) : Place :=
  if place.all (· = "..") then ".." :: place
  else if place = ["/"] then place
  else place.dropLast

/-- The longest name a file may have, in bytes. -/
def maxNameLength : Nat := 255

/-- The place that names lead to from a directory. Every name but the last must
lead to a directory. -/
def locateFrom (t : FileTree) (place : Place) : List String → Except FileProblem Place
  | [] => .ok place
  | name :: names =>
    if maxNameLength < name.utf8ByteSize then .error .nameTooLong
    else
      let next := if name = ".." then above place else place ++ [name]
      if names.isEmpty then .ok next
      else match t.node? next with
        | some .directory => locateFrom t next names
        | some (.file _) => .error .notDirectory
        | none => .error .notFound

/-- What is below a place by the names that lead on from it, where `nodes` are
below the place that holds it. -/
def within (name : String) : List (Place × Node) → List (Place × Node)
  | [] => []
  | ([], _) :: nodes => within name nodes
  | (first :: rest, node) :: nodes =>
    if first = name then (rest, node) :: within name nodes else within name nodes

/-- What is below a place by the names that lead on from it. -/
def below (nodes : List (Place × Node)) : Place → List (Place × Node)
  | [] => nodes
  | name :: place => below (within name nodes) place

/-- As `locateFrom`, with what is below the place at hand, so that a long path
is followed without a search of the whole tree for every name. -/
def locateWithin (t : FileTree) (place : Place) (near : List (Place × Node)) :
    List String → Except FileProblem Place
  | [] => .ok place
  | name :: names =>
    if maxNameLength < name.utf8ByteSize then .error .nameTooLong
    else
      let next := if name = ".." then above place else place ++ [name]
      if names.isEmpty then .ok next
      else
        let near := if name = ".." then below t.nodes next else within name near
        let node? : Option Node := if isFixed next then some .directory
          else (near.find? (·.1 = [])).map (·.2)
        match node? with
        | some .directory => locateWithin t next near names
        | some (.file _) => .error .notDirectory
        | none => .error .notFound

theorem find?_within (name : String) (nodes : List (Place × Node)) (rest : Place) :
    ((within name nodes).find? (·.1 = rest)).map (·.2) =
      (nodes.find? (·.1 = name :: rest)).map (·.2) := by
  induction nodes with
  | nil => rfl
  | cons n nodes ih =>
    obtain ⟨place, node⟩ := n
    cases place with
    | nil => simp [within, ih]
    | cons first place =>
      by_cases hf : first = name <;> by_cases hp : place = rest <;> simp_all [within]

theorem find?_below (nodes : List (Place × Node)) (place rest : Place) :
    ((below nodes place).find? (·.1 = rest)).map (·.2) =
      (nodes.find? (·.1 = place ++ rest)).map (·.2) := by
  induction place generalizing nodes with
  | nil => rfl
  | cons name place ih => rw [below, ih, find?_within]; rfl

theorem below_append (nodes : List (Place × Node)) (place : Place) (name : String) :
    below nodes (place ++ [name]) = within name (below nodes place) := by
  induction place generalizing nodes with
  | nil => rfl
  | cons first place ih => exact ih _

/-- Both ways to follow names lead to the same place. -/
theorem locateWithin_eq (t : FileTree) (place : Place) (names : List String) :
    t.locateWithin place (below t.nodes place) names = t.locateFrom place names := by
  induction names generalizing place with
  | nil => rfl
  | cons name names ih =>
    have near : ∀ next, (if name = ".." then above place else place ++ [name]) = next →
        (if name = ".." then below t.nodes next else within name (below t.nodes place)) =
          below t.nodes next := by
      rintro next rfl
      split
      · rfl
      · rw [below_append]
    have node : ∀ next, (if isFixed next then some Node.directory
        else ((below t.nodes next).find? (·.1 = [])).map (·.2)) = t.node? next := by
      intro next
      rw [find?_below, List.append_nil, node?]
    simp only [locateWithin, locateFrom, near _ rfl, node, ih]

/-- The longest path that is followed, in bytes. -/
def maxPathLength : Nat := 4095

/-- The place that a path leads to. -/
def locate (t : FileTree) (path : Path) : Except FileProblem Place :=
  if path.parts.any fun name => name.toList.contains '\x00' then .error .embeddedNull
  else if maxPathLength < path.text.utf8ByteSize then .error .nameTooLong
  else
    let start := if path.slashes = 0 then [] else ["/"]
    t.locateWithin start (below t.nodes start) path.parts

/-- A path is followed name by name. -/
theorem locate_eq (t : FileTree) (path : Path) :
    t.locate path =
      if path.parts.any fun name => name.toList.contains '\x00' then .error .embeddedNull
      else if maxPathLength < path.text.utf8ByteSize then .error .nameTooLong
      else t.locateFrom (if path.slashes = 0 then [] else ["/"]) path.parts := by
  simp only [locate, locateWithin_eq]

/-- What a path leads to. -/
def at? (t : FileTree) (path : Path) : Except FileProblem (Option Node) :=
  t.node? <$> t.locate path

/-- A failure with a file, with the path by which it was asked for. -/
def failure (path : Path) (problem : FileProblem) : Failure := .file problem path.text

/-- Whether a path leads to a file. A path that leads nowhere does not. -/
def isFile (t : FileTree) (path : Path) : Except Failure Bool :=
  match t.at? path with
  | .ok (some (.file _)) => .ok true
  | .ok _ | .error .notFound | .error .notDirectory | .error .embeddedNull => .ok false
  | .error problem => .error (failure path problem)

/-- The bytes of a file. -/
def read (t : FileTree) (path : Path) : Except Failure (List UInt8) :=
  match t.at? path with
  | .ok (some (.file bytes)) => .ok bytes
  | .ok (some .directory) => .error (failure path .isDirectory)
  | .ok none => .error (failure path .notFound)
  | .error problem => .error (failure path problem)

/-- Opens a file for writing: gives its place and its bytes so far. -/
def openFile (t : FileTree) (path : Path) : Except Failure (Place × List UInt8) :=
  match t.locate path with
  | .error problem => .error (failure path problem)
  | .ok place => match t.node? place with
    | some .directory => .error (failure path .isDirectory)
    | some (.file bytes) => .ok (place, bytes)
    | none => .ok (place, [])

/-- Writes a file anew. -/
def write (t : FileTree) (path : Path) (bytes : List UInt8) : Except Failure FileTree :=
  (fun opened => t.put opened.1 (.file bytes)) <$> t.openFile path

/-- Writes at the end of a file. -/
def append (t : FileTree) (path : Path) (bytes : List UInt8) : Except Failure FileTree :=
  (fun opened => t.put opened.1 (.file (opened.2 ++ bytes))) <$> t.openFile path

/-- Removes a file. -/
def remove (t : FileTree) (path : Path) : Except Failure FileTree :=
  match t.locate path with
  | .error problem => .error (failure path problem)
  | .ok place => match t.node? place with
    | some (.file _) => .ok (t.erase place)
    | some .directory => .error (failure path .isDirectory)
    | none => .error (failure path .notFound)

/-- Makes one directory. -/
def makeDirectory (t : FileTree) (path : Path) : Except FileProblem FileTree := do
  let place ← t.locate path
  match t.node? place with
  | some _ => .error .alreadyExists
  | none => .ok (t.put place .directory)

def isDirectory (t : FileTree) (path : Path) : Bool :=
  match t.at? path with
  | .ok (some .directory) => true
  | _ => false

/-- Makes a directory that may be there already, and with `depth` to go, the
directories above it that are missing. What was made before a failure stays. -/
def makeDirectories (t : FileTree) (depth : Nat) (path : Path) : Except Failure Unit × FileTree :=
  match t.makeDirectory path with
  | .ok t => (.ok (), t)
  | .error .notFound =>
    match depth with
    | 0 => (.error (failure path .notFound), t)
    | depth + 1 =>
      match t.makeDirectories depth path.parent with
      | (.error e, t) => (.error e, t)
      | (.ok _, t) => match t.makeDirectory path with
        | .ok t => (.ok (), t)
        | .error problem =>
          (if problem ≠ .notFound && t.isDirectory path then .ok ()
            else .error (failure path problem), t)
  | .error problem =>
    (if t.isDirectory path then .ok () else .error (failure path problem), t)

/-- Makes a directory with all that lead to it. -/
def ensureDirectory (t : FileTree) (path : Path) : Except Failure Unit × FileTree :=
  t.makeDirectories path.parts.length path

/-- Makes a directory that must not be there yet, with all that lead to it. -/
def createDirectory (t : FileTree) (path : Path) : Except Failure Unit × FileTree :=
  match t.makeDirectory path with
  | .ok t => (.ok (), t)
  | .error .notFound => match t.ensureDirectory path.parent with
    | (.error e, t) => (.error e, t)
    | (.ok _, t) => match t.makeDirectory path with
      | .ok t => (.ok (), t)
      | .error problem => (.error (failure path problem), t)
  | .error problem => (.error (failure path problem), t)

/-- Writes a file anew once a directory and all that lead to it are there. -/
def writeWithin (t : FileTree) (dir path : Path) (bytes : List UInt8) :
    Except Failure Unit × FileTree :=
  match t.ensureDirectory dir with
  | (.error e, t) => (.error e, t)
  | (.ok _, t) => match t.write path bytes with
    | .ok t => (.ok (), t)
    | .error e => (.error e, t)

end FileTree

end ServerFleet
