import ServerFleet.Text.Blank
import ServerFleet.Failure

/-!
# Stores of hosts files

A store holds files of lines by name. `Store` is what topology resolution needs
of one, whatever its state `σ` is: to know whether a file exists, to read its
lines, and to write it. `parseHosts` reads the lines of a hosts file.

* `mem_parseHosts`: a host is a line that is neither blank nor a comment,
  stripped.
-/

namespace ServerFleet

/-- Files of lines, by name. Reading changes nothing. -/
structure Store (σ : Type) where
  has : σ → String → Except Failure Bool
  read : σ → String → Except Failure (List String)
  write : σ → String → List String → Except Failure Unit × σ

/-- The host that a line names: none if it is blank or begins with `#`. -/
def hostOfLine? (line : String) : Option String :=
  let host := Text.strip line
  if host.isEmpty || host.toList.head? = some '#' then none else some host

/-- The hosts that lines name, in order and with repetitions. -/
def parseHosts (lines : List String) : List String := lines.filterMap hostOfLine?

theorem mem_parseHosts {lines : List String} {host : String} :
    host ∈ parseHosts lines ↔ ∃ line ∈ lines, hostOfLine? line = some host := by
  simp [parseHosts]

end ServerFleet
