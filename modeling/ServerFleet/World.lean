import ServerFleet.Act
import ServerFleet.Console.Table

/-!
# The world

All that a run cannot decide by itself is asked of a `World`: what collaborators
and the system answer, what the machine says of itself, what callbacks and
contexts do. Its answers depend on a state of its own, which they change as they
like. Only what it says of users and what becomes of a table that is printed are
the same at all times.

A collaborator may call back into the controller while it is being called, so
its answer is a `Reaction`: it ends the call, or asks for a transition and goes
on with what became of it, or registers a callback and goes on.
-/

namespace ServerFleet

/-! ## The machine -/

inductive AddressFamily where
  | ipv4
  | ipv6
  | link
  deriving DecidableEq

/-- A network interface: whether it is up, and the flags it is marked with on
platforms that have them. -/
structure Interface where
  name : String
  isUp : Bool
  flags : Option String
  deriving DecidableEq

/-- What the machine says of itself. Each answer may be a failure. -/
structure Machine where
  hostName : Except Failure String
  /-- The fully qualified name. -/
  fullName : Except Failure String
  /-- The IPv4 address of a name. -/
  lookup : String → Except Failure String
  interfaces : Except Failure (List Interface)
  /-- The addresses of the interfaces, by their names. -/
  addresses : Except Failure (List (String × List (AddressFamily × String)))

/-! ## Answers -/

/-- How a call to a collaborator or a callback goes on, where `σ` is the state
of the world. -/
inductive Reaction (σ : Type) where
  | finish (outcome : Except Failure Unit) (next : σ)
  /-- Asks for a transition of the cluster, and goes on with its failure, if it
  failed, and the state the world is in by then. -/
  | reenter (transition : Transition) (next : σ) (resume : Option Failure → σ → Reaction σ)
  | register (callback : Callback) (rest : Reaction σ)

/-- How a process ended. -/
inductive ProcessEnd where
  | exited (code : Int) (stdout stderr : List UInt8)
  | timedOut
  | failed (failure : Failure)

/-- How a command line on another host ended. -/
inductive RemoteEnd where
  | exited (code : Int) (stdout stderr : String)
  | timedOut
  | failed (failure : Failure)

/-- What is known of a context that a factory built. -/
structure ContextShape where
  /-- Whether the factory gave nothing. -/
  absent : Bool
  /-- Whether the context can be closed. -/
  closable : Bool
  deriving DecidableEq

/-- What a call to the context factory comes to, with the kind of context that
was asked for. -/
structure ContextBuild where
  kind : String
  outcome : Except Failure ContextShape

/-- The answers that a run gets, each with the state of the world after it. -/
structure World (σ : Type) where
  control : ControlCall → σ → Reaction σ
  process : List String → Environment → Option Float → σ → ProcessEnd × σ
  connect : String → ConnectionOptions → σ → Except Failure Unit × σ
  runOver : String → String → Option Float → σ → RemoteEnd × σ
  machine : σ → Machine × σ
  callback : Callback → Phase → String → σ → Reaction σ
  buildContext : σ → ContextBuild × σ
  closeContext : Nat → σ → Except Failure Unit × σ
  /-- The home directory of a user of the machine. -/
  homeOf : String → Option String
  /-- Prints a table. The texts in it are taken for markup, which may be faulty. -/
  draw : Console.Table → Except Failure Unit := fun _ => .ok ()

end ServerFleet
