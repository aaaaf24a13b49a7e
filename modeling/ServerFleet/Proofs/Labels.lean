import Mathlib
import ServerFleet.Proofs.Calls
import ServerFleet.Text.Digit

/-!
# Labels tell instances apart

A label is the name of a role, the host, and the number of the instance if its host may run
several. No name of a role holds the separator behind it, and no number the one in front of it, so
that the first separator of the one kind and the last of the other are where the label was put
together, whatever the host is called (`Instance.eq_of_label`). Whether there is a number follows
from the role, as long as the settings are the same.

On a host, the role and the number that is exported are as good as a label
(`Dispatch.instances_told_apart`).
-/

namespace ServerFleet

/-! ## Separators -/

theorem append_cons_inj_of_first {α : Type} {c : α} {a b s t : List α} (ha : c ∉ a) (hb : c ∉ b)
    (h : a ++ c :: s = b ++ c :: t) : a = b ∧ s = t := by
  induction a generalizing b with
  | nil =>
    cases b with
    | nil => exact ⟨rfl, (List.cons.inj h).2⟩
    | cons y b => exact absurd (List.mem_cons.mpr (.inl (List.cons.inj h).1)) hb
  | cons x a ih =>
    cases b with
    | nil => exact absurd (List.mem_cons.mpr (.inl (List.cons.inj h).1.symm)) ha
    | cons y b =>
      obtain ⟨rfl, htail⟩ := List.cons.inj h
      obtain ⟨rfl, rfl⟩ := ih (List.not_mem_of_not_mem_cons ha) (List.not_mem_of_not_mem_cons hb)
        htail
      exact ⟨rfl, rfl⟩

theorem append_cons_inj_of_last {α : Type} {c : α} {a b s t : List α} (hs : c ∉ s) (ht : c ∉ t)
    (h : a ++ c :: s = b ++ c :: t) : a = b ∧ s = t := by
  have hreverse : s.reverse ++ c :: a.reverse = t.reverse ++ c :: b.reverse := by
    simpa using congrArg List.reverse h
  obtain ⟨hst, hab⟩ := append_cons_inj_of_first (mt List.mem_reverse.mp hs)
    (mt List.mem_reverse.mp ht) hreverse
  exact ⟨List.reverse_injective hab, List.reverse_injective hst⟩

theorem Role.at_notMem_name (r : Role) : '@' ∉ r.name.toList := by cases r <;> decide

/-- A number is written in digits, behind a minus sign if it is negative. -/
theorem hash_notMem_toString (n : Int) : '#' ∉ (toString n).toList := by
  have hdigits (k : Nat) : '#' ∉ (toString k).toList :=
    fun h => absurd (Text.isDigit_of_mem_toString h) (by decide)
  cases n with
  | ofNat k => exact hdigits k
  | negSucc k =>
    have hminus : toString (Int.negSucc k) = "-" ++ toString (k + 1) := rfl
    rw [hminus, String.toList_append, List.mem_append]
    exact not_or.mpr ⟨by decide, hdigits (k + 1)⟩

namespace Instance

/-! ## Labels -/

/-- What a label holds behind the role. -/
def place (i : Instance) : List Char :=
  i.host.toList ++ if i.numbered then '#' :: (toString i.index).toList else []

theorem toList_label (i : Instance) : i.label.toList = i.role.name.toList ++ '@' :: i.place := by
  unfold label place
  split <;> simp

/-- A label ends its role with the first separator. -/
theorem role_and_place_of_label {i j : Instance} (h : i.label = j.label) :
    i.role = j.role ∧ i.place = j.place := by
  have hlist := congrArg String.toList h
  rw [toList_label, toList_label] at hlist
  obtain ⟨hname, hplace⟩ :=
    append_cons_inj_of_first i.role.at_notMem_name j.role.at_notMem_name hlist
  exact ⟨Role.name_injective (String.toList_inj.mp hname), hplace⟩

/-- The number, where there is one, begins with the last separator. -/
theorem host_and_index_of_place {i j : Instance} (hn : i.numbered = j.numbered)
    (h : i.place = j.place) : i.host = j.host ∧ (i.numbered = true → i.index = j.index) := by
  unfold place at h
  rw [← hn] at h
  cases hi : i.numbered with
  | false =>
    simp only [hi, Bool.false_eq_true, if_false, List.append_nil] at h
    exact ⟨String.toList_inj.mp h, nofun⟩
  | true =>
    simp only [hi, if_true] at h
    obtain ⟨hhost, hindex⟩ := append_cons_inj_of_last (hash_notMem_toString _)
      (hash_notMem_toString _) h
    exact ⟨String.toList_inj.mp hhost, fun _ => Int.repr_inj.mp (String.toList_inj.mp hindex)⟩

/-- The same of what is exported, which is nothing but the number. -/
theorem index_of_exported {i j : Instance} (hn : i.numbered = j.numbered)
    (h : i.exported = j.exported) (hi : i.numbered = true) : i.index = j.index := by
  rw [exported, exported, ← hn, if_pos hi, if_pos hi] at h
  exact Int.repr_inj.mp h

variable {role role' : Role} {host host' : String} {count : Nat} {i j : Instance}

theorem numbered_of_role (hi : i ∈ onHost role host count) (hj : j ∈ onHost role' host' count)
    (h : i.role = j.role) : i.numbered = j.numbered := by
  obtain ⟨hrole, -, hnumbered, -⟩ := of_mem_onHost hi
  obtain ⟨hrole', -, hnumbered', -⟩ := of_mem_onHost hj
  rw [hnumbered, hnumbered', ← hrole, ← hrole', h]

/-- Instances of the same role on the same host are told apart by their numbers, if they have
any. -/
theorem eq_of_index (hi : i ∈ onHost role host count) (hj : j ∈ onHost role' host' count)
    (hrole : i.role = j.role) (hhost : i.host = j.host)
    (hindex : i.numbered = true → i.index = j.index) : i = j := by
  have hn := numbered_of_role hi hj hrole
  have hindex : i.index = j.index := by
    cases hnumbered : i.numbered with
    | false =>
      rw [(of_mem_onHost hi).2.2.2 hnumbered, (of_mem_onHost hj).2.2.2 (hn.symm.trans hnumbered)]
    | true => exact hindex hnumbered
  cases i
  cases j
  simp only [mk.injEq]
  exact ⟨hrole, hhost, hindex, hn⟩

theorem eq_of_label (hi : i ∈ onHost role host count) (hj : j ∈ onHost role' host' count)
    (h : i.label = j.label) : i = j := by
  obtain ⟨hrole, hplace⟩ := role_and_place_of_label h
  obtain ⟨hhost, hindex⟩ := host_and_index_of_place (numbered_of_role hi hj hrole) hplace
  exact eq_of_index hi hj hrole hhost hindex

theorem eq_of_exported (hi : i ∈ onHost role host count) (hj : j ∈ onHost role' host count)
    (hrole : i.role = j.role) (h : i.exported = j.exported) : i = j := by
  have hhost : i.host = j.host := (of_mem_onHost hi).2.1.trans (of_mem_onHost hj).2.1.symm
  exact eq_of_index hi hj hrole hhost (index_of_exported (numbered_of_role hi hj hrole) h)

theorem nodup_exported (role : Role) (host : String) (count : Nat) :
    ((onHost role host count).map exported).Nodup := by
  refine List.Nodup.map_on (fun i hi j hj h => ?_) (nodup_onHost role host count)
  exact eq_of_exported hi hj ((of_mem_onHost hi).1.trans (of_mem_onHost hj).1.symm) h

end Instance

namespace Dispatch

/-- The words of a call end in the role and the command. -/
theorem role_and_command_of_serviceWords {settings : Settings} {i j : Instance} {c d : Command}
    {words : List String} (hi : serviceWords settings i c = .ok words)
    (hj : serviceWords settings j d = .ok words) : i.role = j.role ∧ c = d := by
  obtain ⟨launcher, script, hl, hs, rfl⟩ := serviceWords_eq_ok_iff.mp hi
  rw [serviceWords_eq hl hs, Except.ok.injEq] at hj
  obtain ⟨hrole, hcommand⟩ : j.role.name = i.role.name ∧ d.name = c.name := by
    simpa using hj
  exact ⟨Role.name_injective hrole.symm, Command.name_injective hcommand.symm⟩

/-- As long as the settings are the same, no two instances are confused.

* A label tells the instance, and so its role, its host and its number, whatever hosts are
  called.
* The instances of a role on a host are all exported differently.
* What the service script is run with on a host, its words and the variable, tells the
  instance. -/
theorem instances_told_apart (settings : Settings) :
    (∀ {role role' : Role} {host host' : String} {i j : Instance},
      i ∈ instances settings role host → j ∈ instances settings role' host' →
        i.label = j.label → i = j) ∧
    (∀ role host, ((instances settings role host).map Instance.exported).Nodup) ∧
    ∀ {role role' : Role} {host : String} {i j : Instance} {c d : Command} {words : List String},
      i ∈ instances settings role host → j ∈ instances settings role' host →
        serviceWords settings i c = .ok words → serviceWords settings j d = .ok words →
        exported settings i = exported settings j → i = j ∧ c = d := by
  refine ⟨Instance.eq_of_label, fun role host => Instance.nodup_exported role host _, ?_⟩
  intro role role' host i j c d words hi hj hwi hwj hexported
  obtain ⟨hrole, hcommand⟩ := role_and_command_of_serviceWords hwi hwj
  have hnumber : i.exported = j.exported :=
    (Prod.mk.inj (List.cons.inj hexported).1).2
  exact ⟨Instance.eq_of_exported hi hj hrole hnumber, hcommand⟩

/-- The second worker on a host whose name looks like a label itself. -/
theorem instances_told_apart_awkward :
    let i : Instance := ⟨.worker, "gc@h#1", 2, true⟩
    let j : Instance := (instances .twoWorkers .worker "gc@h#1").getLast (by decide)
    let words := ["sudo", "-n", "svc", "tserver", "kill"]
    (i ∈ instances .twoWorkers .worker "gc@h#1" ∧ j ∈ instances .twoWorkers .worker "gc@h#1") ∧
      (i.label = "tserver@gc@h#1#2" ∧ i.label = j.label ∧ i = j) ∧
      ["1", "2"].Nodup ∧
      (serviceWords .twoWorkers i .kill = .ok words ∧
        serviceWords .twoWorkers j .kill = .ok words ∧
        exported .twoWorkers i = exported .twoWorkers j ∧ i = j ∧ Command.kill = .kill) := by
  intro i j words
  obtain ⟨hlabel, hexported, hscript⟩ := instances_told_apart .twoWorkers
  have hi : i ∈ instances .twoWorkers .worker "gc@h#1" := by decide
  have hj : j ∈ instances .twoWorkers .worker "gc@h#1" := List.getLast_mem _
  have hwi : serviceWords .twoWorkers i .kill = .ok words :=
    serviceWords_eq Settings.twoWorkers_launcher Settings.twoWorkers_script i .kill
  have hwj : serviceWords .twoWorkers j .kill = .ok words :=
    serviceWords_eq Settings.twoWorkers_launcher Settings.twoWorkers_script j .kill
  exact ⟨⟨hi, hj⟩, ⟨by decide, rfl, hlabel hi hj rfl⟩, hexported .worker "gc@h#1",
    hwi, hwj, rfl, hscript hi hj hwi hwj rfl⟩

/-- Where a host runs another number of workers, a label may have another meaning. -/
example : Instance.label ⟨.worker, "h#1", 1, false⟩ = Instance.label ⟨.worker, "h", 1, true⟩ := by
  decide

end Dispatch

end ServerFleet
