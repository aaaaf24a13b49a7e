import ServerFleet.Environment
import ServerFleet.World

/-!
# Command lines on other hosts

`run` runs a command line on a host over a connection that it opens and closes,
and gives what the command wrote. Whatever goes wrong is an execution failure
with the host and the command line: a command that does not end with the exit
code zero, one that runs out of time, and anything else as a host out of reach.
-/

namespace ServerFleet

/-- How other hosts are reached. -/
structure RemoteOptions where
  user : Option String := none
  port : Int := 22
  keyFile : Option String := none
  connectTimeout : Float := 2.0
  commandTimeout : Option Float := none

namespace RemoteShell

variable {σ : Type} (w : World σ)

/-- The path of the key, if one is named. -/
def keyPath (home : String) (options : RemoteOptions) : Except Failure (Option Path) :=
  match options.keyFile with
  | none => .ok none
  | some "" => .ok none
  | some key => match (Path.parse key).expandHome home w.homeOf with
    | .ok path => .ok (some path)
    | .error .unknown => .error .unknownHome
    | .error .embeddedNull => .error (.file .embeddedNull key)

/-- How the connection to a host is made. -/
def connection (home : String) (options : RemoteOptions) : Except Failure ConnectionOptions :=
  (fun key => ⟨options.user, options.port, options.connectTimeout, key⟩) <$>
    keyPath w home options

/-- Opens the connection, runs the command line over it and closes it. A
connection that was opened is closed however the command ends. -/
def converse (home : String) (options : RemoteOptions) (host line : String) : Act σ RemoteEnd := do
  let how ← Act.ofExcept (connection w home options)
  Act.record (.system (.connect host how))
  Act.consult (w.connect host how)
  Act.record (.system (.runOver host line options.commandTimeout))
  let ended ← Act.consult fun s =>
    let (ended, s) := w.runOver host line options.commandTimeout s
    (.ok ended, s)
  Act.record (.system (.disconnect host))
  return ended

/-- The result of a run by the way it ended, which is a failure if there was no
conversation. -/
def result (host line : String) : Except Failure RemoteEnd → Except Failure String
  | .error e | .ok (.failed e) => .error (.unreachable host line e)
  | .ok .timedOut => .error (.remoteTimedOut host line)
  | .ok (.exited code stdout stderr) =>
    if code = 0 then .ok stdout else .error (.remoteFailed host line code stderr)

/-- Runs a command line on a host. -/
def run (home : String) (options : RemoteOptions) (host line : String) : Act σ String := do
  Act.log .debug ("Running on " ++ host ++ ": " ++ line)
  Act.ofExcept (result host line (← (converse w home options host line).attempt))

end RemoteShell

end ServerFleet
