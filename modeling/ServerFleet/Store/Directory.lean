import ServerFleet.FileTree
import ServerFleet.Store
import ServerFleet.Text.Lines

/-!
# A store in a directory

The files of a directory, as text in UTF-8 with a line feed after every line.
The directory is made when a file is first written.
-/

namespace ServerFleet

namespace DirectoryStore

/-- The path of a file in a directory. -/
def pathOf (dir : Path) (name : String) : Path := dir.join (Path.parse name)

/-- Reads bytes as lines of text. -/
def linesOf (bytes : List UInt8) : Except Failure (List String) :=
  match Text.Utf8.decode bytes with
  | .ok text => .ok (Text.lines (Text.uniform text))
  | .error fault => .error (.undecodable fault)

/-- The bytes of lines of text. -/
def bytesOf (lines : List String) : List UInt8 := Text.Utf8.encode (Text.unlines lines)

def read (dir : Path) (t : FileTree) (name : String) : Except Failure (List String) := do
  linesOf (← t.read (pathOf dir name))

def write (dir : Path) (t : FileTree) (name : String) (lines : List String) :
    Except Failure Unit × FileTree :=
  t.writeWithin dir (pathOf dir name) (bytesOf lines)

/-- The store in the directory `dir`. -/
def store (dir : Path) : Store FileTree where
  has t name := t.isFile (pathOf dir name)
  read := read dir
  write := write dir

/-- How messages name the store. -/
def shown (dir : Path) : String := "DirectoryConfigSource(" ++ Text.quoted dir.text ++ ")"

end DirectoryStore

end ServerFleet
