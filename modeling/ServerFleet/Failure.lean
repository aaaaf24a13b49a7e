import ServerFleet.ErrorReport
import ServerFleet.Instance
import ServerFleet.Lifecycle
import ServerFleet.Number.Shortest
import ServerFleet.Settings
import ServerFleet.Text.Quoted
import ServerFleet.Text.Shell
import ServerFleet.Text.Utf8

/-!
# Failures

Everything that can go wrong, by its cause. A failure has a kind and a message.
If its kind carries a context, `Failure.report?` gives the whole report; a
failure that wraps another one has it as its cause, and the wrappers of process
failures take over its context.
-/

namespace ServerFleet

/-- What is wrong with the hosts files. -/
inductive ConfigurationProblem where
  /-- The workers are listed under their former name. -/
  | legacyWorkers (file : String)
  | missingWorkers
  | emptyWorkers
  /-- A role has no hosts file, and there is no coordinator to stand in. -/
  | missingDefault (role : Role)
  /-- Hosts files would be overwritten. -/
  | existingFiles (names : List String)
  deriving DecidableEq

namespace ConfigurationProblem

def message : ConfigurationProblem → String
  | legacyWorkers file =>
    "A '" ++ file ++ "' file was found; rename it to '" ++ Role.worker.hostsFile ++ "'."
  | missingWorkers =>
    "A '" ++ Role.worker.hostsFile ++
      "' file was not found; run 'fc create-config' to create one."
  | emptyWorkers => "The '" ++ Role.worker.hostsFile ++ "' file lists no hosts."
  | missingDefault role =>
    "Missing '" ++ role.hostsFile ++ "' file and no '" ++ Role.coordinator.hostsFile ++
      "' entry to default to."
  | existingFiles _ => "Refusing to overwrite existing hosts files."

def context : ConfigurationProblem → Entries Detail
  | legacyWorkers file => [("role", .text Role.worker.name), ("file", .text file)]
  | missingWorkers | emptyWorkers =>
    [("role", .text Role.worker.name), ("file", .text Role.worker.hostsFile)]
  | missingDefault role => [("role", .text role.name), ("file", .text role.hostsFile)]
  | existingFiles names => [("files", .texts names)]

end ConfigurationProblem

/-- What is wrong with a file. -/
inductive FileProblem where
  | notFound
  | notDirectory
  | isDirectory
  | alreadyExists
  | nameTooLong
  /-- A path with a null character in it, which names no file. -/
  | embeddedNull
  deriving DecidableEq

namespace FileProblem

def kind : FileProblem → Kind
  | notFound => .system .notFound
  | notDirectory => .system .notDirectory
  | isDirectory => .system .isDirectory
  | alreadyExists => .system .alreadyExists
  | nameTooLong => .system .general
  | embeddedNull => .value

/-- How a problem with the file at a path is reported: with the number and the
words of the operating system, if it was asked. -/
def message (path : String) : FileProblem → String
  | notFound => "[Errno 2] No such file or directory: " ++ Text.quoted path
  | alreadyExists => "[Errno 17] File exists: " ++ Text.quoted path
  | notDirectory => "[Errno 20] Not a directory: " ++ Text.quoted path
  | isDirectory => "[Errno 21] Is a directory: " ++ Text.quoted path
  | nameTooLong => "[Errno 36] File name too long: " ++ Text.quoted path
  | embeddedNull => "embedded null byte"

end FileProblem

/-- The words by which something is chosen. -/
inductive Vocabulary where
  | role
  | command
  | phase
  deriving DecidableEq

def Vocabulary.name : Vocabulary → String
  | .role => "Role"
  | .command => "ControlCommand"
  | .phase => "ClusterState"

/-- Everything that can go wrong. -/
inductive Failure where
  /-- An error that something outside the controller raised. -/
  | raised (kind : Kind) (message : String) (context : Entries Detail)
  | configuration (problem : ConfigurationProblem)
  | refused (refusal : Refusal)
  | processTimedOut (argv : List String) (limit : Option Float)
  | processNotStarted (argv : List String) (cause : Failure)
  | processFailed (argv : List String) (code : Int) (stderr : String)
  | remoteTimedOut (host command : String)
  | remoteFailed (host command : String) (code : Int) (stderr : String)
  | unreachable (host command : String) (cause : Failure)
  /-- A control call for an instance failed. -/
  | dispatch (target : Instance) (command : Command) (isLocal : Bool) (cause : Failure)
  /-- The administrative request `words`, run as `argv`, failed. -/
  | administrative (words argv : List String) (cause : Failure)
  | cleanup (roles : List Role) (cause : Failure)
  | file (problem : FileProblem) (path : String)
  | undecodable (fault : Text.Utf8.Fault)
  /-- A file that a store in memory does not have. -/
  | noEntry (name : String)
  | commandLine (fault : Text.Shell.Fault)
  /-- A text that is no word of a vocabulary. -/
  | unknownWord (vocabulary : Vocabulary) (text : String)
  /-- A pool of no size. -/
  | emptyPool
  | poolClosed
  | noContextFactory
  /-- The home directory that a path begins with is not known. -/
  | unknownHome
  /-- A call is given one of its arguments twice. -/
  | argumentTwice (callee argument : String)
  /-- A set is given a member of a kind whose values can change. -/
  | unfixedMember (kind : String)
  /-- None of the roles has registrations. -/
  | nothingToPurge (roles : List Role)
  | settings (fault : Settings.Fault)

/-- Reads a text as a word of a vocabulary. -/
def Vocabulary.read {α : Type} (v : Vocabulary) (ofName? : String → Option α) (text : String) :
    Except Failure α :=
  match ofName? text with
  | some x => .ok x
  | none => .error (.unknownWord v text)

/-- The set of one member, which must be fixed. -/
def Detail.singleton (kind : CollectionKind) (d : Detail) : Except Failure Detail :=
  match d.unfixed? with
  | some name => .error (.unfixedMember name)
  | none => .ok (.collection kind [d])

namespace Failure

def kind : Failure → Kind
  | raised kind _ _ => kind
  | configuration _ => .reported .configuration
  | refused _ => .reported .precondition
  | processTimedOut .. | processNotStarted .. | processFailed .. | remoteTimedOut ..
  | remoteFailed .. | unreachable .. => .reported .execution
  | dispatch .. => .reported .dispatch
  | administrative .. => .reported .administrative
  | cleanup .. => .reported .cleanup
  | file problem _ => problem.kind
  | undecodable _ => .undecodable
  | noEntry _ => .key
  | commandLine _ | unknownWord .. | emptyPool | nothingToPurge _ => .value
  | poolClosed | noContextFactory | unknownHome => .runtime
  | argumentTwice .. | unfixedMember _ => .type
  | settings _ => .settings

/-- A time limit as messages show it. -/
def limitText : Option Float → String
  | some x => Number.floatText x
  | none => "None"

/-- What a command said of its failure, or else its exit code. -/
def exitDetail (code : Int) (stderr : String) : String :=
  let said := Text.strip stderr
  if said.isEmpty then "exit code " ++ toString code else said

/-- The names of some roles in order. -/
def sortedNames (roles : List Role) : List String :=
  (roles.map Role.name).mergeSort fun a b => a ≤ b

def message : Failure → String
  | raised _ message _ => message
  | configuration problem => problem.message
  | refused refusal => refusal.message
  | processTimedOut _ limit => "Command timed out after " ++ limitText limit ++ "s"
  | processNotStarted _ cause => "Command could not be started: " ++ cause.message
  | processFailed _ code stderr => "Command failed: " ++ exitDetail code stderr
  | remoteTimedOut host _ => "Remote command timed out on " ++ host
  | remoteFailed host _ code stderr =>
    "Remote command failed on " ++ host ++ ": " ++ exitDetail code stderr
  | unreachable host _ cause => "Could not reach " ++ host ++ ": " ++ cause.message
  | dispatch target command _ cause =>
    "Failed to " ++ command.name ++ " " ++ target.label ++ ": " ++ cause.message
  | administrative words _ cause =>
    "Administrative request '" ++ " ".intercalate words ++ "' failed: " ++ cause.message
  | cleanup _ cause => "Purging registrations failed: " ++ cause.message
  | file problem path => problem.message path
  | undecodable fault => fault.message
  | noEntry name => Text.quoted name
  | commandLine fault => fault.message
  | unknownWord vocabulary text =>
    Text.quoted text ++ " is not a valid " ++ vocabulary.name
  | emptyPool => "max_workers must be greater than 0"
  | poolClosed => "cannot schedule new futures after shutdown"
  | noContextFactory => "No coordination context factory configured"
  | unknownHome => "Could not determine home directory."
  | argumentTwice callee argument =>
    callee ++ "() got multiple values for argument '" ++ argument ++ "'"
  | unfixedMember kind => "unhashable type: '" ++ kind ++ "'"
  | nothingToPurge roles => "No purgeable roles in " ++ Text.quotedList (sortedNames roles)
  | settings fault => fault.headline

/-- The kind of the failure behind this one. -/
def causeKind? : Failure → Option Kind
  | processTimedOut .. => some .processTimeout
  | remoteTimedOut .. => some .remoteTimeout
  | remoteFailed .. => some .remoteExit
  | processNotStarted _ cause | unreachable _ _ cause | dispatch _ _ _ cause
  | administrative _ _ cause | cleanup _ cause => some cause.kind
  | _ => none

/-- The context of a failure, which is empty for a kind without one. -/
def context : Failure → Entries Detail
  | raised _ _ context => context
  | configuration problem => problem.context
  | refused refusal =>
    [("transition", .text refusal.transition), ("state", .text refusal.phase.name)] ++
      (refusal.inFlight?.map fun t => ("in_flight", Detail.text t)).toList
  | processTimedOut argv _ | processNotStarted argv _ => [("argv", .texts argv)]
  | processFailed argv code _ => [("argv", .texts argv), ("returncode", .int code)]
  | remoteTimedOut host command | unreachable host command _ =>
    [("host", .text host), ("command", .text command)]
  | remoteFailed host command code _ =>
    [("host", .text host), ("command", .text command), ("returncode", .int code)]
  | dispatch target command isLocal _ =>
    [("role", .text target.role.name), ("host", .text target.host),
      ("instance", .int target.index), ("command", .text command.name), ("local", .bool isLocal)]
  | administrative _ argv cause => Entries.update [("argv", .texts argv)] cause.context
  | cleanup roles cause =>
    Entries.update [("roles", .texts (sortedNames roles))] cause.context
  | _ => []

/-- The report of a failure whose kind carries a context. -/
def report? (f : Failure) : Option ErrorReport :=
  match f.kind with
  | .reported kind =>
    some (ErrorReport.of kind f.message f.context f.causeKind?)
  | _ => none

end Failure

end ServerFleet
