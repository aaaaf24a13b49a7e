/-!
# Command lines

How a command line is read as words, and words written as a command line.

Words are separated by blanks, tabs, line feeds and carriage returns. Between
single quotes every character stands for itself. Between double quotes a
backslash takes away the meaning of a double quote or a backslash. Outside
quotes a backslash takes away the meaning of any character. Reading keeps, for
every character of a word, whether it was written bare (`Written`), because a
word counts as an assignment only if its name and equals sign are.

* `readWords`, `split`: a command line as words;
* `quote`, `join`: words as a command line;
* `SimpleCommand.read`: a command line as assignments, a program and its arguments.
-/

namespace ServerFleet.Text.Shell

/-- Why a command line cannot be read. -/
inductive Fault where
  | unclosedQuote
  | danglingEscape
  deriving DecidableEq

def Fault.message : Fault → String
  | .unclosedQuote => "No closing quotation"
  | .danglingEscape => "No escaped character"

/-- A character of a word, and whether it was written without quoting. -/
structure Written where
  char : Char
  bare : Bool
  deriving DecidableEq

/-- Where the reader stands. -/
inductive Mode where
  /-- Between words. -/
  | gap
  /-- In a word, outside quotes. -/
  | word
  /-- In a word, after the opening quote `q`. -/
  | inQuote (q : Char)
  /-- After a backslash, outside quotes or after the opening quote given. -/
  | escape (within : Option Char)
  deriving DecidableEq

/-- The characters that separate words. -/
def isSeparator (c : Char) : Bool := c = ' ' || c = '\t' || c = '\r' || c = '\n'

def isQuote (c : Char) : Bool := c = '\x27' || c = '\x22'

/-- Reads the rest of a command line, in the mode given and with the characters
of the word begun so far, last first. -/
def readFrom : Mode → List Written → List Char → Except Fault (List (List Written))
  | .gap, _, [] => .ok []
  | .word, w, [] => .ok [w.reverse]
  | .inQuote _, _, [] => .error .unclosedQuote
  | .escape _, _, [] => .error .danglingEscape
  | .gap, _, c :: cs =>
    if isSeparator c then readFrom .gap [] cs
    else if c = '\x5c' then readFrom (.escape none) [] cs
    else if isQuote c then readFrom (.inQuote c) [] cs
    else readFrom .word [⟨c, true⟩] cs
  | .word, w, c :: cs =>
    if isSeparator c then (w.reverse :: ·) <$> readFrom .gap [] cs
    else if c = '\x5c' then readFrom (.escape none) w cs
    else if isQuote c then readFrom (.inQuote c) w cs
    else readFrom .word (⟨c, true⟩ :: w) cs
  | .inQuote q, w, c :: cs =>
    if c = q then readFrom .word w cs
    else if c = '\x5c' && q = '\x22' then readFrom (.escape (some q)) w cs
    else readFrom (.inQuote q) (⟨c, false⟩ :: w) cs
  | .escape none, w, c :: cs => readFrom .word (⟨c, false⟩ :: w) cs
  | .escape (some q), w, c :: cs =>
    readFrom (.inQuote q)
      (if c = '\x5c' || c = q then ⟨c, false⟩ :: w else ⟨c, false⟩ :: ⟨'\x5c', false⟩ :: w) cs

/-- The words of a command line, as written. -/
def readWords (line : String) : Except Fault (List (List Written)) := readFrom .gap [] line.toList

/-- The text of a word. -/
def textOf (w : List Written) : String := String.ofList (w.map (·.char))

/-- The words of a command line. -/
def split (line : String) : Except Fault (List String) := (·.map textOf) <$> readWords line

/-! ## Writing words -/

/-- The characters that need no quoting. -/
def isSafe (c : Char) : Bool :=
  c.isAlphanum || "@%+=:,./-_".toList.contains c

/-- A single quote as it stands inside a single-quoted word: the quote is
closed, the single quote double-quoted, and the quote opened again. -/
def quoteChar (c : Char) : List Char :=
  if c = '\x27' then ['\x27', '\x22', '\x27', '\x22', '\x27'] else [c]

/-- A word that reads back as `cs`. -/
def quoteChars (cs : List Char) : List Char :=
  if cs.isEmpty then ['\x27', '\x27']
  else if cs.all isSafe then cs
  else '\x27' :: cs.flatMap quoteChar ++ ['\x27']

def quote (s : String) : String := String.ofList (quoteChars s.toList)

/-- A command line that reads back as the words `ws`. -/
def join (ws : List String) : String := " ".intercalate (ws.map quote)

/-! ## Simple commands -/

/-- A command line as a shell runs it: assignments for the command's
environment, the program and its arguments. -/
structure SimpleCommand where
  assignments : List (String × String)
  words : List String
  deriving DecidableEq

def isNameStart (c : Char) : Bool := c.isAlpha || c = '_'

def isNameChar (c : Char) : Bool := c.isAlphanum || c = '_'

/-- Whether a text is a name that a shell assigns to. -/
def isName (s : String) : Bool :=
  match s.toList with
  | [] => false
  | c :: cs => isNameStart c && cs.all isNameChar

/-- The assignment a word stands for at the head of a command: a name and an
equals sign, written without quoting, and any value. -/
def assignment? (w : List Written) : Option (String × String) :=
  let head := w.takeWhile fun x => x.bare && isNameChar x.char
  match w.dropWhile fun x => x.bare && isNameChar x.char with
  | ⟨'=', true⟩ :: value => if isName (textOf head) then some (textOf head, textOf value) else none
  | _ => none

/-- The assignments that words begin with, and the words after them. -/
def SimpleCommand.ofWords : List (List Written) → SimpleCommand
  | [] => ⟨[], []⟩
  | w :: ws =>
    match assignment? w with
    | some a => let c := SimpleCommand.ofWords ws; { c with assignments := a :: c.assignments }
    | none => ⟨[], (w :: ws).map textOf⟩

/-- Reads a command line as a simple command. -/
def SimpleCommand.read (line : String) : Except Fault SimpleCommand :=
  SimpleCommand.ofWords <$> readWords line

end ServerFleet.Text.Shell
