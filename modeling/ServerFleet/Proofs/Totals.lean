import Mathlib.Algebra.BigOperators.Group.List.Basic
import Mathlib.Algebra.Ring.Int.Defs
import Mathlib.Data.List.Forall2
import ServerFleet.Report

/-!
# Totals

The parts of an operation have reports of their own, which are merged in turn into a fresh one
(`Report.total`). A report `SumsUp` some others if it holds what they hold. To merge a report into
one that sums up some parts adds the parts of the other (`Report.SumsUp.merge`), so that by
induction a total sums up its parts, and only one report of an operation does
(`Report.SumsUp.unique`).

* `Summarizes`: what a flag tells of those of the parts;
* `Report.merging_adds_up`: it is no matter how parts are grouped in stages, and their order is one
  for the order of the outcomes alone.
-/

namespace ServerFleet

/-! ## Flags -/

/-- A flag tells of some others: it is unset if all of them are, false if one of them is, and true
otherwise. -/
structure Summarizes (flag : Option Bool) (flags : List (Option Bool)) : Prop where
  none_iff : flag = none ↔ ∀ f ∈ flags, f = none
  false_iff : flag = some false ↔ some false ∈ flags
  true_iff : flag = some true ↔ some true ∈ flags ∧ some false ∉ flags

namespace Summarizes

variable {a b : Option Bool} {as bs : List (Option Bool)}

theorem nil : Summarizes none [] := ⟨by simp, by simp, by simp⟩

theorem single (a : Option Bool) : Summarizes a [a] := by
  refine ⟨by simp, by simp [eq_comm], ?_⟩
  rcases a with _ | _ | _ <;> simp

theorem append (h : Summarizes a as) (h' : Summarizes b bs) :
    Summarizes (allOk a b) (as ++ bs) where
  none_iff := by rw [allOk_eq_none_iff, h.none_iff, h'.none_iff, List.forall_mem_append]
  false_iff := by rw [allOk_eq_false_iff, h.false_iff, h'.false_iff, List.mem_append]
  true_iff := by
    rw [allOk_eq_true_iff, h.true_iff, h'.true_iff, ne_eq, ne_eq, h.false_iff, h'.false_iff,
      List.mem_append, List.mem_append]
    tauto

/-- Neither how often a flag occurs nor where makes a difference. -/
theorem congr (h : Summarizes a as) (h' : Summarizes b bs) (hm : ∀ f, f ∈ as ↔ f ∈ bs) :
    a = b := by
  rcases a with _ | _ | _
  · exact (h'.none_iff.mpr fun f hf => h.none_iff.mp rfl f ((hm f).mpr hf)).symm
  · exact (h'.false_iff.mpr ((hm _).mp (h.false_iff.mp rfl))).symm
  · obtain ⟨htrue, hfalse⟩ := h.true_iff.mp rfl
    exact (h'.true_iff.mpr ⟨(hm _).mp htrue, mt (hm _).mpr hfalse⟩).symm

end Summarizes

namespace Report

/-! ## Totals -/

/-- The report of an operation that went in parts: theirs, merged in turn into a fresh one. -/
def total (operation : String) (parts : List Report) : Report :=
  parts.foldl merge { operation := operation }

/-- A report holds what some others hold. -/
structure SumsUp (r : Report) (parts : List Report) : Prop where
  outcomes : r.outcomes = parts.flatMap (·.outcomes)
  barriers : r.barriers = (parts.map (·.barriers)).sum
  adminOk : Summarizes r.adminOk (parts.map (·.adminOk))
  purgeOk : Summarizes r.purgeOk (parts.map (·.purgeOk))

namespace SumsUp

variable {r r' : Report} {parts parts' : List Report}

theorem fresh (operation : String) : SumsUp { operation := operation } [] :=
  ⟨rfl, rfl, .nil, .nil⟩

theorem single (r : Report) : r.SumsUp [r] := ⟨by simp, by simp, .single _, .single _⟩

/-- To merge a report adds all its parts. -/
theorem merge (h : r.SumsUp parts) (h' : r'.SumsUp parts') :
    (r.merge r').SumsUp (parts ++ parts') where
  outcomes := by rw [Report.merge, h.outcomes, h'.outcomes, List.flatMap_append]
  barriers := by rw [Report.merge, h.barriers, h'.barriers, List.map_append, List.sum_append]
  adminOk := by
    rw [List.map_append]
    exact h.adminOk.append h'.adminOk
  purgeOk := by
    rw [List.map_append]
    exact h.purgeOk.append h'.purgeOk

theorem foldl_merge (h : r.SumsUp parts) {rs : List Report} {pss : List (List Report)}
    (hs : List.Forall₂ SumsUp rs pss) :
    (rs.foldl Report.merge r).SumsUp (parts ++ pss.flatten) := by
  induction hs generalizing r parts with
  | nil =>
    rw [List.flatten_nil, List.append_nil]
    exact h
  | cons hr _ ih =>
    rw [List.flatten_cons, ← List.append_assoc]
    exact ih (h.merge hr)

/-- The total of reports that each sum up some parts sums up all those parts. -/
theorem total (operation : String) {rs : List Report} {pss : List (List Report)}
    (hs : List.Forall₂ SumsUp rs pss) : (total operation rs).SumsUp pss.flatten :=
  (fresh operation).foldl_merge hs

theorem unique (h : r.SumsUp parts) (h' : r'.SumsUp parts)
    (hname : r.operation = r'.operation) : r = r' := by
  have houtcomes : r.outcomes = r'.outcomes := h.outcomes.trans h'.outcomes.symm
  have hadmin : r.adminOk = r'.adminOk := h.adminOk.congr h'.adminOk fun _ => Iff.rfl
  have hpurge : r.purgeOk = r'.purgeOk := h.purgeOk.congr h'.purgeOk fun _ => Iff.rfl
  have hbarriers : r.barriers = r'.barriers := h.barriers.trans h'.barriers.symm
  cases r
  cases r'
  simp only [mk.injEq]
  exact ⟨hname, houtcomes, hadmin, hpurge, hbarriers⟩

/-- Sums of the same parts in another order differ in the order of their outcomes alone. -/
theorem of_perm (h : r.SumsUp parts) (h' : r'.SumsUp parts') (hp : parts.Perm parts') :
    r.adminOk = r'.adminOk ∧ r.purgeOk = r'.purgeOk ∧ r.barriers = r'.barriers ∧
      r.outcomes.Perm r'.outcomes := by
  refine ⟨h.adminOk.congr h'.adminOk fun _ => (hp.map _).mem_iff,
    h.purgeOk.congr h'.purgeOk fun _ => (hp.map _).mem_iff, ?_, ?_⟩
  · rw [h.barriers, h'.barriers]
    exact (hp.map _).sum_eq
  · rw [h.outcomes, h'.outcomes]
    exact hp.flatMap_right _

end SumsUp

theorem sumsUp_total (operation : String) (parts : List Report) :
    (total operation parts).SumsUp parts := by
  have heach : List.Forall₂ SumsUp parts (parts.map ([·])) :=
    List.forall₂_map_right_iff.mpr (List.forall₂_same.mpr fun r _ => .single r)
  have h := SumsUp.total operation heach
  rwa [← List.flatMap_def, List.flatMap_singleton'] at h

theorem total_operation (operation : String) (parts : List Report) :
    (total operation parts).operation = operation := by
  have h (r : Report) : (parts.foldl merge r).operation = r.operation := by
    induction parts generalizing r with
    | nil => rfl
    | cons part parts ih => exact ih (r.merge part)
  exact h _

/-! ## Stages -/

/-- A stage of an operation: one that is a part, or one that went in stages itself, which are put
together in a report first. -/
inductive Stage where
  | part (report : Report)
  | group (operation : String) (members : List Stage)

namespace Stage

mutual

/-- The report of a stage. -/
def report : Stage → Report
  | part r => r
  | group operation members => total operation (reports members)

def reports : List Stage → List Report
  | [] => []
  | s :: ss => s.report :: reports ss

end

mutual

/-- The parts that a stage consists of in the end. -/
def parts : Stage → List Report
  | part r => [r]
  | group _ members => (partsOf members).flatten

def partsOf : List Stage → List (List Report)
  | [] => []
  | s :: ss => s.parts :: partsOf ss

end

theorem reports_eq_map (ss : List Stage) : reports ss = ss.map report := by
  induction ss with
  | nil => rfl
  | cons s ss ih => rw [reports, ih, List.map_cons]

theorem partsOf_eq_map (ss : List Stage) : partsOf ss = ss.map parts := by
  induction ss with
  | nil => rfl
  | cons s ss ih => rw [partsOf, ih, List.map_cons]

mutual

theorem sumsUp : (s : Stage) → s.report.SumsUp s.parts
  | part r => .single r
  | group operation members => .total operation (sumsUp_each members)

theorem sumsUp_each : (ss : List Stage) → List.Forall₂ SumsUp (reports ss) (partsOf ss)
  | [] => .nil
  | s :: ss => .cons s.sumsUp (sumsUp_each ss)

end

end Stage

/-- Reports that are merged in turn into a fresh one add up.

* The total holds the outcomes of all parts, in their order, and all their barriers. Each of its
  flags is unset if it is unset in all parts, false if it is false in one of them, and true
  otherwise.
* Merging is associative, and the total of some stages is that of all their parts, however deep
  the parts are grouped.
* The total of the parts in another order has the same flags, as many barriers and as many
  failures. -/
theorem merging_adds_up (operation : String) :
    (∀ parts, (total operation parts).SumsUp parts) ∧
    (∀ a b c : Report, (a.merge b).merge c = a.merge (b.merge c)) ∧
    (∀ stages : List Stage,
      total operation (stages.map Stage.report) = total operation (stages.flatMap Stage.parts)) ∧
    ∀ parts parts' : List Report, parts.Perm parts' →
      let r := total operation parts
      let r' := total operation parts'
      r.adminOk = r'.adminOk ∧ r.purgeOk = r'.purgeOk ∧ r.barriers = r'.barriers ∧
        r.failures.length = r'.failures.length := by
  refine ⟨sumsUp_total operation, merge_assoc, fun stages => ?_, ?_⟩
  · have h : (total operation (stages.map Stage.report)).SumsUp (stages.flatMap Stage.parts) := by
      rw [← Stage.reports_eq_map, List.flatMap_def, ← Stage.partsOf_eq_map]
      exact .total operation (Stage.sumsUp_each stages)
    refine h.unique (sumsUp_total operation _) ?_
    rw [total_operation, total_operation]
  · intro parts parts' hp r r'
    obtain ⟨hadmin, hpurge, hbarriers, houtcomes⟩ :=
      (sumsUp_total operation parts).of_perm (sumsUp_total operation parts') hp
    exact ⟨hadmin, hpurge, hbarriers, (houtcomes.filter _).length_eq⟩

/-- A fleet is stopped in vain and started, or the other way round. -/
theorem merging_adds_up_swapped :
    let target : Instance := ⟨.worker, "a", 1, false⟩
    let stopped : Report := {
      operation := "stop"
      outcomes := [⟨target, .stop, false, some .poolClosed⟩, ⟨target, .kill, false, none⟩]
      adminOk := some false
      purgeOk := some true }
    let started : Report := {
      operation := "start"
      outcomes := [⟨target, .start, false, none⟩]
      barriers := 1 }
    let r := total "restart" [stopped, started]
    let r' := total "restart" [started, stopped]
    [stopped, started].Perm [started, stopped] ∧
      r.adminOk = some false ∧ r.purgeOk = some true ∧
      r.adminOk = r'.adminOk ∧ r.purgeOk = r'.purgeOk ∧ r.barriers = r'.barriers ∧
        r.failures.length = r'.failures.length := by
  intro target stopped started r r'
  have hp : [stopped, started].Perm [started, stopped] := .swap ..
  exact ⟨hp, rfl, rfl, (merging_adds_up "restart").2.2.2 _ _ hp⟩

end Report

end ServerFleet
