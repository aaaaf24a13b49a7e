import ServerFleet.World

/-!
# Which hosts are this machine

An identity is a set of names that this machine answers to. It is pinned to
names that are given, or discovered when it is first asked and kept from then
on. Names are compared without the blanks around them and in lower case. The
loopback names are always among them and need no discovery.

* `names_eq_of_known`: once the names are known, they never change;
* `isLocal_loopback`: a loopback name is answered without looking further.
-/

namespace ServerFleet

/-- The names of every machine for itself. -/
def loopbackNames : List String := ["localhost", "127.0.0.1"]

/-- A host name in the form in which names are compared. -/
def normalName (name : String) : String := Text.lowercase (Text.strip name)

/-- Adds a name to a set of names. -/
def addName (names : List String) (name : String) : List String :=
  if name = "" || names.contains name then names else names ++ [name]

theorem mem_addName {names : List String} {name n : String} :
    n ∈ addName names name ↔ n ∈ names ∨ (n = name ∧ name ≠ "") := by
  unfold addName
  split
  · rename_i h
    have h : name = "" ∨ name ∈ names := by simpa using h
    grind
  · rename_i h
    have h : name ≠ "" := by
      rintro rfl
      exact h (by simp)
    simp [h]

/-- The set of the normal forms of some names, without the blank ones. -/
def normalNames (names : List String) : List String :=
  (names.map normalName).foldl addName []

/-- The names this machine answers to, if they are known yet. -/
structure Identity where
  names? : Option (List String) := none
  deriving DecidableEq

/-- An identity pinned to some names, of which any may be missing. -/
def Identity.pinned (names : List (Option String)) : Identity where
  names? := some (loopbackNames.foldl addName (normalNames (names.filterMap id)))

/-- The state in which names are looked for: that of the world, and the names
known so far. -/
structure Vantage (σ : Type) where
  world : σ
  identity : Identity

namespace Identity

variable {σ : Type} (w : World σ)

/-! ## Discovery -/

/-- Asks the machine, as it is now. -/
def ask {α : Type} (question : Machine → Except Failure α) : Act σ α :=
  Act.consult fun s =>
    let (m, s') := w.machine s
    (question m, s')

/-- Runs an action, and instead of a failure that `caught` says is expected runs
another one with it. -/
def onFailure {τ α : Type} (caught : Kind → Bool) (a : Act τ α) (instead : Failure → Act τ α) :
    Act τ α := do
  match ← a.attempt with
  | .ok x => pure x
  | .error e => if caught e.kind then instead e else Act.fail e

/-- Whether an interface may carry the machine's address. -/
def Qualifies (i : Interface) : Bool :=
  i.isUp && !(i.flags.getD "").contains "loopback" && i.name != "lo"

/-- The first IPv4 address of an interface that is no loopback address. -/
def outwardAddress? (addresses : List (AddressFamily × String)) : Option String :=
  (addresses.find? fun a => a.1 = .ipv4 && !a.2.startsWith "127.").map (·.2)

/-- The first outward address, in the order of the interfaces. -/
def firstAddress? (interfaces : List Interface)
    (addresses : List (String × List (AddressFamily × String))) : Option String :=
  (interfaces.filter Qualifies).findSome? fun i =>
    (addresses.find? (·.1 = i.name)).bind fun a => outwardAddress? a.2

/-- The failures that the listing of interfaces is expected to meet. -/
def isListingFailure (k : Kind) : Bool := k.isSystem || k = .accessDenied

/-- The address of the first interface that has one, if the interfaces can be
listed. -/
def interfaceAddress : Act σ (Option String) :=
  onFailure isListingFailure
    (do
      let interfaces ← ask w (·.interfaces)
      let addresses ← ask w (·.addresses)
      return firstAddress? interfaces addresses)
    fun e => do
      Act.log .debug ("Interface enumeration failed: " ++ e.message)
      return none

/-- The machine's address: that of its first interface, or else that of its
full name. -/
def primaryAddress : Act σ (Option String) := do
  match ← interfaceAddress w with
  | some address => return some address
  | none =>
    onFailure Kind.isSystem
      (do
        let name ← ask w (·.fullName)
        let address ← ask w (·.lookup name)
        return some address)
      fun e => do
        Act.log .debug ("Own FQDN lookup failed: " ++ e.message)
        return none

/-- The part of a name before its first dot. -/
def shortName (name : String) : String := String.ofList (name.toList.takeWhile (· ≠ '.'))

/-- The names and the address that this machine answers to. -/
def discover : Act σ (List String) := do
  let hostName ← onFailure Kind.isSystem (ask w (·.hostName)) fun e => do
    Act.log .debug ("Hostname lookup failed: " ++ e.message)
    return ""
  let fullName ← onFailure Kind.isSystem (ask w (·.fullName)) fun e => do
    Act.log .debug ("FQDN lookup failed: " ++ e.message)
    return ""
  let address ← primaryAddress w
  return [hostName, shortName hostName, fullName, address.getD ""].foldl addName loopbackNames

/-! ## Queries -/

/-- The names this machine answers to. Those found first are kept; if they
cannot be found, only the loopback names are. -/
def names : Act (Vantage σ) (List String) := do
  match (← Act.get).identity.names? with
  | some known => return known
  | none =>
    let inWorld : Act (Vantage σ) (List String) :=
      (discover w).zoom (·.world) fun world v => { v with world := world }
    let found ← match ← inWorld.attempt with
      | .ok found => pure (normalNames found)
      | .error e => do
        Act.log .warning
          ("Local identity discovery failed, treating hosts as remote: " ++ e.message)
        pure loopbackNames
    Act.modify fun v => { v with identity := ⟨some found⟩ }
    return found

/-- Whether a host is this machine. No host is not. -/
def isLocal (host : Option String) : Act (Vantage σ) Bool := do
  let name := normalName (host.getD "")
  if name = "" then return false
  if loopbackNames.contains name then return true
  return (← names w).contains name

theorem names_eq_of_known {v : Vantage σ} {known : List String}
    (h : v.identity.names? = some known) : (names w).run v = ⟨.ok known, v, []⟩ := by
  unfold names
  rw [Act.run_bind_of_ok (Act.run_get v)]
  simp [h]

theorem isLocal_loopback {host : String} (h : normalName host ∈ loopbackNames) (v : Vantage σ) :
    (isLocal w (some host)).run v = ⟨.ok true, v, []⟩ := by
  have hne : normalName host ≠ "" := by
    rintro e
    rw [e] at h
    exact absurd h (by decide)
  simp [isLocal, hne, h]

end Identity

end ServerFleet
