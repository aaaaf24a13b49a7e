import ServerFleet.Event
import ServerFleet.Proofs.Totals

/-!
# Ledgers

What a sequence does goes in steps: a command for an instance, an administrative
request, a wait, or a purge. A ledger lists the steps that were taken and what
came of each of them. A report is the tally of a ledger, and to merge reports is
to put their ledgers one after the other (`Ledger.tally_merge`).

A failed step is handled if the sequence goes on after it: any failure of a
command, and those failures of requests and purges that are expected.
-/

namespace ServerFleet

/-- What a sequence does at a time. -/
inductive Step where
  | dispatch (target : Instance) (command : Command) (isLocal : Bool)
  | request (request : AdminRequest)
  | wait (seconds : Float)
  | purge (roles : List Role)

/-- Whether a sequence goes on after a failure of the step. -/
def Step.Handles : Step → Failure → Prop
  | dispatch .., _ => True
  | request _, e => e.kind = .reported .administrative
  | wait _, _ => False
  | purge _, e => e.kind = .reported .cleanup

/-- A step that was taken, and what came of it. -/
structure Entry where
  step : Step
  result : Except Failure Unit

/-- Whether a result is not a failure. -/
def succeeded {α : Type} : Except Failure α → Bool
  | .ok _ => true
  | .error _ => false

namespace Entry

/-- The outcome that is reported of a command. -/
def outcome? : Entry → Option Outcome
  | ⟨.dispatch target command isLocal, result⟩ =>
    some ⟨target, command, isLocal, match result with
      | .ok _ => none
      | .error e => some (.dispatch target command isLocal e)⟩
  | _ => none

/-- Whether a request to stop succeeded, if the step is one. -/
def stopOk? : Entry → Option Bool
  | ⟨.request .stopAll, result⟩ => some (succeeded result)
  | ⟨.request (.stopWorker _), result⟩ => some (succeeded result)
  | _ => none

/-- Whether a purge succeeded, if the step is one. -/
def purgeOk? : Entry → Option Bool
  | ⟨.purge _, result⟩ => some (succeeded result)
  | _ => none

end Entry

namespace Ledger

/-- The flag for all the entries that have one. -/
def flag (of : Entry → Option Bool) : List Entry → Option Bool
  | [] => none
  | e :: l => allOk (of e) (flag of l)

/-- The report of a ledger. -/
def tally (operation : String) (barriers : Int) (l : List Entry) : Report where
  operation := operation
  outcomes := l.filterMap Entry.outcome?
  adminOk := flag Entry.stopOk? l
  purgeOk := flag Entry.purgeOk? l
  barriers := barriers

theorem flag_append (of : Entry → Option Bool) (l₁ l₂ : List Entry) :
    flag of (l₁ ++ l₂) = allOk (flag of l₁) (flag of l₂) := by
  induction l₁ with
  | nil => exact (none_allOk _).symm
  | cons e l₁ ih => rw [List.cons_append, flag, ih, ← allOk_assoc, flag]

/-- The flag of a ledger tells of those of its entries. -/
theorem flag_summarizes (of : Entry → Option Bool) (l : List Entry) :
    Summarizes (flag of l) (l.map of) := by
  induction l with
  | nil => exact .nil
  | cons e l ih => exact (Summarizes.single (of e)).append ih

/-- A flag is unset if no entry has one. -/
theorem flag_eq_none_iff (of : Entry → Option Bool) (l : List Entry) :
    flag of l = none ↔ ∀ e ∈ l, of e = none := by
  rw [(flag_summarizes of l).none_iff, List.forall_mem_map]

/-- A flag is false if that of an entry is. -/
theorem flag_eq_false_iff (of : Entry → Option Bool) (l : List Entry) :
    flag of l = some false ↔ ∃ e ∈ l, of e = some false := by
  rw [(flag_summarizes of l).false_iff, List.mem_map]

/-- Merging reports puts their ledgers one after the other. -/
theorem tally_merge (operation part : String) (b₁ b₂ : Int) (l₁ l₂ : List Entry) :
    (tally operation b₁ l₁).merge (tally part b₂ l₂) = tally operation (b₁ + b₂) (l₁ ++ l₂) := by
  simp [Report.merge, tally, flag_append, List.filterMap_append]

theorem tally_nil (operation : String) :
    tally operation 0 [] = { operation := operation } := rfl

/-- The entries of some commands, with the outcomes that are reported of them. -/
structure Commands (l : List Entry) (outcomes : List Outcome) : Prop where
  outcomes_eq : l.filterMap Entry.outcome? = outcomes
  stop_none : flag Entry.stopOk? l = none
  purge_none : flag Entry.purgeOk? l = none

theorem Commands.nil : Commands [] [] := ⟨rfl, rfl, rfl⟩

theorem Commands.append {l₁ l₂ : List Entry} {os₁ os₂ : List Outcome} (h₁ : Commands l₁ os₁)
    (h₂ : Commands l₂ os₂) : Commands (l₁ ++ l₂) (os₁ ++ os₂) where
  outcomes_eq := by rw [List.filterMap_append, h₁.outcomes_eq, h₂.outcomes_eq]
  stop_none := by rw [flag_append, h₁.stop_none, h₂.stop_none]; rfl
  purge_none := by rw [flag_append, h₁.purge_none, h₂.purge_none]; rfl

theorem Commands.tally_eq {l : List Entry} {os : List Outcome} (h : Commands l os)
    (operation : String) (barriers : Int) :
    tally operation barriers l =
      { operation := operation, outcomes := os, barriers := barriers } := by
  simp only [tally, h.outcomes_eq, h.stop_none, h.purge_none]

end Ledger

end ServerFleet
