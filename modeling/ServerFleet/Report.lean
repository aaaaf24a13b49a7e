import ServerFleet.Failure

/-!
# Reports

What came of control calls and of a whole operation. A report of a part is
merged into that of the whole: outcomes and barriers add up, and a flag is false
if it is false in a part, and unset only if it is unset in all of them.

* `allOk_assoc`, `allOk_comm`: the order in which flags are combined is no matter;
* `merge_assoc`: nor is the grouping of parts.
-/

namespace ServerFleet

/-- What came of a control call for an instance. -/
structure Outcome where
  target : Instance
  command : Command
  /-- Whether the instance is on this machine. -/
  isLocal : Bool
  failure : Option Failure

def Outcome.isOk (o : Outcome) : Bool := o.failure.isNone

/-- The flag for two steps together, where an unset flag is that of a step that
did not run. -/
def allOk : Option Bool → Option Bool → Option Bool
  | a, none => a
  | none, b => b
  | some a, some b => some (a && b)

theorem none_allOk (b : Option Bool) : allOk none b = b := by cases b <;> rfl

theorem allOk_none (b : Option Bool) : allOk b none = b := by cases b <;> rfl

theorem allOk_assoc (a b c : Option Bool) : allOk (allOk a b) c = allOk a (allOk b c) := by
  rcases a with _ | a <;> rcases b with _ | b <;> rcases c with _ | c <;>
    simp [allOk, Bool.and_assoc]

theorem allOk_comm (a b : Option Bool) : allOk a b = allOk b a := by
  rcases a with _ | a <;> rcases b with _ | b <;> simp [allOk, Bool.and_comm]

theorem allOk_eq_none_iff {a b : Option Bool} : allOk a b = none ↔ a = none ∧ b = none := by
  rcases a with _ | a <;> rcases b with _ | b <;> simp [allOk]

theorem allOk_eq_false_iff {a b : Option Bool} :
    allOk a b = some false ↔ a = some false ∨ b = some false := by
  rcases a with _ | _ | _ <;> rcases b with _ | _ | _ <;> simp [allOk]

theorem allOk_eq_true_iff {a b : Option Bool} : allOk a b = some true ↔
    (a = some true ∨ b = some true) ∧ a ≠ some false ∧ b ≠ some false := by
  rcases a with _ | _ | _ <;> rcases b with _ | _ | _ <;> simp [allOk]

/-- What an operation dispatched, and how its side requests went. -/
structure Report where
  operation : String
  outcomes : List Outcome := []
  adminOk : Option Bool := none
  purgeOk : Option Bool := none
  /-- How often launches were waited for. -/
  barriers : Int := 0

namespace Report

/-- The outcomes that are failures. -/
def failures (r : Report) : List Outcome := r.outcomes.filter (!·.isOk)

/-- The report with that of a part added. -/
def merge (r part : Report) : Report where
  operation := r.operation
  outcomes := r.outcomes ++ part.outcomes
  adminOk := allOk r.adminOk part.adminOk
  purgeOk := allOk r.purgeOk part.purgeOk
  barriers := r.barriers + part.barriers

theorem merge_assoc (a b c : Report) : (a.merge b).merge c = a.merge (b.merge c) := by
  simp [merge, allOk_assoc, Int.add_assoc]

end Report

end ServerFleet
