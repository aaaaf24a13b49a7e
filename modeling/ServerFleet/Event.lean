import ServerFleet.Failure

/-!
# Events

What a run of the controller is seen to do, in order: lines of its log, calls to
its collaborators, and what happens to callbacks and contexts.

A `ControlCall` goes to a collaborator that carries out what the controller
decides. A `SystemCall` goes to the system, where a collaborator that is built
on processes and remote shells carries it out.
-/

namespace ServerFleet

/-- The severity of a line of the log. -/
inductive Level where
  | debug
  | info
  | warning
  | error
  | critical
  deriving DecidableEq

/-- How lines of the log show their severity. -/
def Level.name : Level → String
  | debug => "DEBUG"
  | info => "INFO"
  | warning => "WARNING"
  | error => "ERROR"
  | critical => "CRITICAL"

/-- The number by which severities are compared. -/
def Level.severity : Level → Int
  | debug => 10
  | info => 20
  | warning => 30
  | error => 40
  | critical => 50

/-- What the administrative interface is asked for. -/
inductive AdminRequest where
  | stopAll
  | setGoal (goal : String)
  | stopWorker (host : String)
  deriving DecidableEq

/-- A call to a collaborator. -/
inductive ControlCall where
  /-- A program run on this machine, with some variables of its own. -/
  | runLocal (argv : List String) (additions : Environment) (limit : Option Float)
  /-- A command line run on another host. -/
  | runRemote (host line : String)
  | admin (request : AdminRequest)
  /-- The registrations of some roles removed. -/
  | purge (roles : List Role)
  | sleep (seconds : Float)

/-- How a connection to a host is made. -/
structure ConnectionOptions where
  user : Option String
  port : Int
  timeout : Float
  keyFile : Option Path

/-- A call to the system. -/
inductive SystemCall where
  /-- A process run to its end in the environment given. -/
  | process (argv : List String) (env : Environment) (limit : Option Float)
  | connect (host : String) (options : ConnectionOptions)
  /-- A command line run over the connection to a host. -/
  | runOver (host line : String) (limit : Option Float)
  | disconnect (host : String)

/-- The transitions of a cluster handle. -/
inductive Transition where
  | start
  | stop
  | terminate
  deriving DecidableEq

namespace Transition

def all : List Transition := [start, stop, terminate]

def name : Transition → String
  | start => "start"
  | stop => "stop"
  | terminate => "terminate"

/-- The transition with a name. -/
def ofName? (s : String) : Option Transition := all.find? (·.name = s)

end Transition

/-- What is done with the pool that runs control calls. -/
inductive PoolStep where
  /-- A call for an instance handed to the pool. -/
  | submit (target : Instance) (command : Command)
  /-- A number of calls waited for. -/
  | join (count : Nat)
  deriving DecidableEq

inductive Event where
  | log (level : Level) (text : String)
  | pool (step : PoolStep)
  | control (call : ControlCall)
  | system (call : SystemCall)
  /-- A callback told of a change, and the phase that it sees. -/
  | callback (callback : Callback) (phase : Phase) (transition : String) (seen : Phase)
  /-- A transition asked for by a collaborator or a callback while it was being
  called, and how that failed if it did. -/
  | reentered (transition : Transition) (failure : Option Failure)
  /-- The context factory called for a context of the kind named. -/
  | contextBuild (kind : String)
  | contextClose (number : Nat)

/-- The call to a collaborator that an event is. -/
def Event.controlCall? : Event → Option ControlCall
  | control call => some call
  | _ => none

/-- The call to the system that an event is. -/
def Event.systemCall? : Event → Option SystemCall
  | system call => some call
  | _ => none

/-- The step of the pool that an event is. -/
def Event.poolStep? : Event → Option PoolStep
  | pool step => some step
  | _ => none

end ServerFleet
