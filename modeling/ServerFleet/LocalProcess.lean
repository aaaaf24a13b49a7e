import ServerFleet.Environment
import ServerFleet.Text.Lines
import ServerFleet.World

/-!
# Processes on this machine

`run` runs a program to its end, with some variables on top of the controller's
environment, and gives what it wrote. A program that does not end with the exit
code zero, that runs out of time or that the system cannot start is an execution
failure. Any other failure to run it is passed on as it is.
-/

namespace ServerFleet.LocalProcess

variable {σ : Type} (w : World σ)

/-- What a process wrote, as text with uniform line ends. -/
def textOf (bytes : List UInt8) : String := Text.uniform (Text.Utf8.decodeLossy bytes)

/-- The result of a run by the way it ended. -/
def result (argv : List String) (limit : Option Float) : ProcessEnd → Except Failure String
  | .timedOut => .error (.processTimedOut argv limit)
  | .failed e => .error (if e.kind.isSystem then .processNotStarted argv e else e)
  | .exited code stdout stderr =>
    if code = 0 then .ok (textOf stdout)
    else .error (.processFailed argv code (textOf stderr))

/-- Runs a program. -/
def run (base : Environment) (argv : List String) (additions : Environment)
    (limit : Option Float) : Act σ String := do
  let env := base.layer additions
  Act.log .debug ("Running locally: " ++ " ".intercalate argv)
  Act.record (.system (.process argv env limit))
  Act.ofExcept (result argv limit (← Act.consult fun s =>
    let (ended, s) := w.process argv env limit s
    (.ok ended, s)))

end ServerFleet.LocalProcess
