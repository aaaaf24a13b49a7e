/-!
# Paths

A path is a number of leading slashes and a list of names. Repeated and
trailing slashes and `.` parts are dropped when a path is read; `..` parts stay,
because what they lead to depends on the directories. Exactly two leading
slashes are kept, more of them count as one.

* `Path.parse`, `Path.text`: reading and writing a path;
* `Path.join`: a path below another one, unless it is absolute;
* `Path.expandHome`: a leading `~` as a home directory.
-/

namespace ServerFleet

structure Path where
  /-- How many slashes the path begins with: none, one or two. -/
  slashes : Nat
  parts : List String
  deriving DecidableEq

namespace Path

/-- The pieces of a text between slashes, where the first has begun with
`piece`, last character first. -/
def pieces (piece : List Char) : List Char → List String
  | [] => [String.ofList piece.reverse]
  | c :: cs =>
    if c = '/' then String.ofList piece.reverse :: pieces [] cs else pieces (c :: piece) cs

/-- Reads a path. -/
def parse (s : String) : Path where
  slashes :=
    let n := (s.toList.takeWhile (· = '/')).length
    if n = 0 || n = 2 then n else 1
  parts := (pieces [] s.toList).filter fun p => p ≠ "" && p ≠ "."

/-- Writes a path. The path without slashes and names is the dot. -/
def text (p : Path) : String :=
  if p.slashes = 0 && p.parts.isEmpty then "."
  else String.ofList (List.replicate p.slashes '/') ++ "/".intercalate p.parts

/-- The path `q` as seen from `p`. -/
def join (p q : Path) : Path :=
  if q.slashes = 0 then { p with parts := p.parts ++ q.parts } else q

/-- The path without its last name. -/
def parent (p : Path) : Path := { p with parts := p.parts.dropLast }

/-- A directory's path as a home directory stands for it: without slashes at
the end, and the root for the empty text. -/
def homeText (home : String) : String :=
  let cs := (home.toList.reverse.dropWhile (· = '/')).reverse
  if cs.isEmpty then "/" else String.ofList cs

/-- Why no home directory is found. -/
inductive HomeFault where
  | unknown
  /-- The user's name has a null character in it, which no name has. -/
  | embeddedNull
  deriving DecidableEq

/-- The home directory of the user whose name follows a tilde: one's own if no
name does. -/
def homeOfUser (own : String) (homeOf : String → Option String) (user : List Char) :
    Except HomeFault String :=
  if user.isEmpty then .ok own
  else if user.contains '\x00' then .error .embeddedNull
  else match homeOf (String.ofList user) with
    | some home => .ok home
    | none => .error .unknown

/-- A relative path whose first name begins with a tilde begins at a home
directory, whose own path must not begin with one. -/
def expandHome (own : String) (homeOf : String → Option String) (p : Path) :
    Except HomeFault Path :=
  match p.slashes, p.parts with
  | 0, first :: rest =>
    match first.toList with
    | '~' :: user => do
      let home := homeText (← homeOfUser own homeOf user)
      if home.toList.head? = some '~' then .error .unknown
      else return { parse home with parts := (parse home).parts ++ rest }
    | _ => .ok p
  | _, _ => .ok p

end Path

end ServerFleet
