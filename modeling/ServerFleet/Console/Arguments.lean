import ServerFleet.Number.Lenient
import ServerFleet.Sequence

/-!
# Arguments of the command line

A command line has options for every command, then a command, then what the
command takes. Options are read by their specification: long options by their
name, with a value after an equals sign or as the next argument, and short ones
by their letter, several of them in one argument. Two dashes end the options.

What the command takes is read only after the options before it were acted on,
so `readHead` and `readRequest` are apart.
-/

namespace ServerFleet.Console

/-- What is wrong with the arguments. -/
inductive UsageFault where
  | unknownOption (name : String)
  | missingValue (name : String)
  | unexpectedValue (name : String)
  | invalidValue (name value : String)
  | missingCommand
  | unknownCommand (name : String)
  | extraArguments (first : String) (others : List String)
  deriving DecidableEq

def UsageFault.message : UsageFault → String
  | unknownOption name => "No such option: " ++ name
  | missingValue name => "Option '" ++ name ++ "' requires an argument."
  | unexpectedValue name => "Option '" ++ name ++ "' does not take a value."
  | invalidValue name value => "Invalid value for '" ++ name ++ "': " ++ value
  | missingCommand => "Missing command."
  | unknownCommand name => "No such command '" ++ name ++ "'."
  | extraArguments first [] => "Got unexpected extra argument (" ++ first ++ ")"
  | extraArguments first others =>
    "Got unexpected extra arguments (" ++ " ".intercalate (first :: others) ++ ")"

/-! ## Options -/

/-- An option: what it stands for, and how it is written. -/
structure OptionSpec (κ : Type) where
  key : κ
  long : String
  short : Option Char := none
  takesValue : Bool := false

/-- The options that an argument gives with their values, and the one that takes
the next argument as its value, if any does. -/
structure Given (κ : Type) where
  complete : List (κ × String)
  open? : Option (κ × String) := none

variable {κ : Type} (specs : List (OptionSpec κ))

/-- Reads a long option. -/
def readLong (name : String) (value : Option String) : Except UsageFault (Given κ) :=
  match specs.find? (·.long = name) with
  | none => .error (.unknownOption name)
  | some spec => match spec.takesValue, value with
    | true, some v => .ok ⟨[(spec.key, v)], none⟩
    | true, none => .ok ⟨[], some (spec.key, name)⟩
    | false, some _ => .error (.unexpectedValue name)
    | false, none => .ok ⟨[(spec.key, "")], none⟩

/-- Reads the letters of short options. What follows the letter of an option that
takes a value is its value. -/
def readShort (sofar : List (κ × String)) : List Char → Except UsageFault (Given κ)
  | [] => .ok ⟨sofar, none⟩
  | c :: cs =>
    let name := String.ofList ['-', c]
    match specs.find? (·.short = some c) with
    | none => .error (.unknownOption name)
    | some spec =>
      if spec.takesValue then
        if cs.isEmpty then .ok ⟨sofar, some (spec.key, name)⟩
        else .ok ⟨sofar ++ [(spec.key, String.ofList cs)], none⟩
      else readShort (sofar ++ [(spec.key, "")]) cs

/-- Whether an argument is made of options. -/
def isOption (arg : String) : Bool := arg.startsWith "-" && arg.length > 1

/-- Reads an argument made of options. -/
def readOption (arg : String) : Except UsageFault (Given κ) :=
  if arg.startsWith "--" then
    let cs := arg.toList
    let name := String.ofList (cs.takeWhile (· ≠ '='))
    match cs.dropWhile (· ≠ '=') with
    | _ :: value => readLong specs name (some (String.ofList value))
    | [] => readLong specs name none
  else readShort specs [] (arg.toList.drop 1)

/-- The options given, in order, and the other arguments. Options are read up to
the first other argument, or if they may be `interspersed` to the end. -/
def readOptions (interspersed : Bool) :
    List String → Except UsageFault (List (κ × String) × List String)
  | [] => .ok ([], [])
  | arg :: args =>
    if arg = "--" then .ok ([], args)
    else if isOption arg then
      match readOption specs arg with
      | .error e => .error e
      | .ok given => match given.open?, args with
        | none, args => do
          let (options, others) ← readOptions interspersed args
          return (given.complete ++ options, others)
        | some (_, name), [] => .error (.missingValue name)
        | some (key, _), value :: args => do
          let (options, others) ← readOptions interspersed args
          return (given.complete ++ (key, value) :: options, others)
    else if interspersed then do
      let (options, others) ← readOptions interspersed args
      return (options, arg :: others)
    else .ok ([], arg :: args)

/-- The last value given for an option. -/
def lastValue? [DecidableEq κ] (options : List (κ × String)) (key : κ) : Option String :=
  (options.reverse.find? (·.1 = key)).map (·.2)

/-! ## The options of every command -/

inductive GlobalOption where
  | confDir
  | workersPerHost
  | debug
  | help
  deriving DecidableEq

def globalOptions : List (OptionSpec GlobalOption) :=
  [⟨.confDir, "--conf-dir", some 'c', true⟩,
    ⟨.workersPerHost, "--workers-per-host", some 'n', true⟩,
    ⟨.debug, "--debug", none, false⟩, ⟨.help, "--help", none, false⟩]

/-- What the options of every command say. -/
structure Globals where
  confDir : Option String := none
  workersPerHost : Option Int := none
  debug : Bool := false
  deriving DecidableEq

/-! ## Commands -/

/-- The commands by name. -/
inductive CommandName where
  | createConfig
  | show
  | operate (operation : Operation)
  deriving DecidableEq

def commandNames : List (String × CommandName) :=
  [("create-config", .createConfig), ("show", .show), ("start", .operate .startAll),
    ("stop", .operate .stopAll), ("kill", .operate .killAll), ("restart", .operate .restart),
    ("start-workers", .operate .startWorkers), ("stop-workers", .operate .stopWorkers),
    ("start-here", .operate .startHere), ("stop-here", .operate .stopHere)]

/-- The commands and the options of every command. -/
def helpText : String :=
  "Usage: fc [OPTIONS] COMMAND [ARGS]...\n\nOptions:\n" ++
    String.join (globalOptions.map fun o => "  " ++ o.long ++ "\n") ++ "\nCommands:\n" ++
    String.join (commandNames.map fun c => "  " ++ c.1 ++ "\n")

/-- What the arguments begin with. -/
inductive Head where
  | help
  | command (globals : Globals) (name : CommandName) (rest : List String)

/-- Reads a number of workers, at least one. It is read as a setting is. -/
def readWorkers (value : String) : Except UsageFault Int :=
  match Number.lenientInteger value with
  | .ok n =>
    if 1 ≤ n then .ok n else .error (.invalidValue "--workers-per-host" value)
  | .error _ => .error (.invalidValue "--workers-per-host" value)

/-- Reads the path of a directory, which holds no null character. -/
def readDirectory (value : String) : Except UsageFault String :=
  if value.toList.contains '\x00' then .error (.invalidValue "--conf-dir" value) else .ok value

/-- Reads the options of every command and the name of the command. -/
def readHead (args : List String) : Except UsageFault Head := do
  let (options, others) ← readOptions globalOptions false args
  if (lastValue? options .help).isSome then return .help
  let confDir ← (lastValue? options .confDir).mapM readDirectory
  let workers ← (lastValue? options .workersPerHost).mapM readWorkers
  let globals : Globals := ⟨confDir, workers, (lastValue? options .debug).isSome⟩
  match others with
  | [] => .error .missingCommand
  | name :: rest => match commandNames.find? (·.1 = name) with
    | some (_, command) => return .command globals command rest
    | none => .error (.unknownCommand name)

inductive CreateOption where
  | host
  | overwrite
  | help
  deriving DecidableEq

def createOptions : List (OptionSpec CreateOption) :=
  [⟨.host, "--host", none, true⟩, ⟨.overwrite, "--overwrite", none, false⟩,
    ⟨.help, "--help", none, false⟩]

def plainOptions : List (OptionSpec Unit) := [⟨(), "--help", none, false⟩]

/-- What a command is asked to do. -/
inductive Request where
  | help
  | createConfig (host : String) (overwrite : Bool)
  | show
  | operate (operation : Operation)
  deriving DecidableEq

/-- The host that takes every role unless another one is named. -/
def defaultHost : String := "localhost"

/-- Reads what a command takes: options only. A call for help is heard before
other arguments are refused. -/
def readRequest (name : CommandName) (rest : List String) : Except UsageFault Request :=
  match name with
  | .createConfig => do
    let (options, others) ← readOptions createOptions true rest
    if (lastValue? options .help).isSome then return .help
    expectNone others
    return .createConfig ((lastValue? options .host).getD defaultHost)
      (lastValue? options .overwrite).isSome
  | .show => plain .show
  | .operate operation => plain (.operate operation)
where
  expectNone : List String → Except UsageFault Unit
    | [] => .ok ()
    | first :: others => .error (.extraArguments first others)
  plain (request : Request) : Except UsageFault Request := do
    let (options, others) ← readOptions plainOptions true rest
    if !options.isEmpty then return .help
    expectNone others
    return request

end ServerFleet.Console
