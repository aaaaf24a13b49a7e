import ServerFleet.Role

/-!
# Instances

One process of a role on a host. Where a host runs several, they are numbered
from one on, and the number is exported to the service script.
-/

namespace ServerFleet

structure Instance where
  role : Role
  host : String
  index : Int := 1
  numbered : Bool := false
  deriving DecidableEq

namespace Instance

/-- What is exported to the service script: the number, or nothing for an
instance that is the only one. -/
def exported (i : Instance) : String := if i.numbered then toString i.index else ""

/-- How messages name the instance. -/
def label (i : Instance) : String :=
  i.role.name ++ "@" ++ i.host ++ (if i.numbered then "#" ++ toString i.index else "")

/-- The instances of `role` on `host`, where worker hosts run `count`. -/
def onHost (role : Role) (host : String) (count : Nat) : List Instance :=
  let count := if role.isMultiInstance then count else 1
  let numbered := role.isMultiInstance && 1 < count
  (List.range count).map fun (k : Nat) => ⟨role, host, (k : Int) + 1, numbered⟩

/-- Whether an instance has a number follows from its role, and one without is the first. -/
theorem of_mem_onHost {role : Role} {host : String} {count : Nat} {i : Instance}
    (h : i ∈ onHost role host count) : i.role = role ∧ i.host = host ∧
      i.numbered = (role.isMultiInstance && decide (1 < count)) ∧
      (i.numbered = false → i.index = 1) := by
  obtain ⟨k, hk, rfl⟩ := List.mem_map.mp h
  rw [List.mem_range] at hk
  cases hrole : role.isMultiInstance <;> simp [hrole] at hk ⊢ <;> omega

theorem nodup_onHost (role : Role) (host : String) (count : Nat) :
    (onHost role host count).Nodup := by
  refine List.pairwise_map.mpr (List.nodup_range.imp fun hne heq => hne ?_)
  have hindex := congrArg Instance.index heq
  simpa [Int.natCast_inj] using hindex

end Instance

end ServerFleet
