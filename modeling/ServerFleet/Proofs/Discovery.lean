import Mathlib.Data.List.TakeWhile
import ServerFleet.Proofs.Locality

/-!
# What a machine goes by

A machine that is asked for its names may fail to answer any question, in the ways that are
expected of it (`Machine.Fallible`), and may give another answer the next time. Neither the
search for its address nor that for all of its names fails:

* `Identity.firstAddress?_eq_some_iff`: which of the addresses of the interfaces is taken;
* `Identity.primaryAddress_run`: the address, by the answers that the machine gives in turn;
* `Identity.names_discovered`: the names that are found are the answers that were given, and
  no answer is missed because another one is missing.
-/

namespace ServerFleet

/-- The machine fails only as the system does, or because it does not let its interfaces be
listed. -/
structure Machine.Fallible (m : Machine) : Prop where
  hostName : ∀ e, m.hostName = .error e → e.kind.isSystem = true
  fullName : ∀ e, m.fullName = .error e → e.kind.isSystem = true
  lookup : ∀ name e, m.lookup name = .error e → e.kind.isSystem = true
  interfaces : ∀ e, m.interfaces = .error e → e.kind.isSystem = true ∨ e.kind = .accessDenied
  addresses : ∀ e, m.addresses = .error e → e.kind.isSystem = true ∨ e.kind = .accessDenied

/-- Whether an interface leads out of the machine: it is up, it is not called `lo`, and it is
not flagged as a loopback. -/
structure Interface.LeadsOut (i : Interface) : Prop where
  up : i.isUp = true
  name : i.name ≠ "lo"
  flags : ∀ flags, i.flags = some flags → ¬ "loopback".toList <:+: flags.toList

namespace World

variable {σ : Type} (w : World σ)

/-- The state of the world once the machine was asked `n` questions. -/
def asked (s : σ) : Nat → σ
  | 0 => s
  | n + 1 => (w.machine (asked s n)).2

/-- The machine as it is found by the question that follows on `n` others. -/
def machineAfter (s : σ) (n : Nat) : Machine := (w.machine (w.asked s n)).1

end World

namespace Identity

/-! ## The address of an interface -/

/-- An IPv4 address that is none of the machine's for itself. -/
def IsOutward (a : AddressFamily × String) : Prop :=
  a.1 = .ipv4 ∧ ¬ "127.".toList <+: a.2.toList

/-- The addresses that are listed for the interface with a name. -/
def listed (addresses : List (String × List (AddressFamily × String))) (name : String) :
    List (AddressFamily × String) :=
  ((addresses.find? (·.1 = name)).map (·.2)).getD []

/-- An address comes first, by the order of the interfaces and then by that of their
addresses, among the outward addresses of interfaces that lead out. -/
def ComesFirst (interfaces : List Interface)
    (addresses : List (String × List (AddressFamily × String))) (address : String) : Prop :=
  ∃ before i after front back,
    interfaces = before ++ i :: after ∧ i.LeadsOut ∧
    listed addresses i.name = front ++ (.ipv4, address) :: back ∧ IsOutward (.ipv4, address) ∧
    (∀ j ∈ before, j.LeadsOut → ∀ a ∈ listed addresses j.name, ¬ IsOutward a) ∧
    ∀ a ∈ front, ¬ IsOutward a

theorem qualifies_iff (i : Interface) : Qualifies i = true ↔ i.LeadsOut := by
  have hflags : (i.flags.getD "").contains "loopback" = false ↔
      ∀ flags, i.flags = some flags → ¬ "loopback".toList <:+: flags.toList := by
    cases i.flags with
    | none => simp
    | some flags => simp
  constructor
  · intro h
    simp only [Qualifies, Bool.and_eq_true, Bool.not_eq_true', bne_iff_ne] at h
    exact ⟨h.1.1, h.2, hflags.mp h.1.2⟩
  · intro h
    simp [Qualifies, h.up, h.name, hflags.mpr h.flags]

theorem outwardAddress?_eq_none_iff (addresses : List (AddressFamily × String)) :
    outwardAddress? addresses = none ↔ ∀ a ∈ addresses, ¬ IsOutward a := by
  simp [outwardAddress?, IsOutward]

theorem outwardAddress?_eq_some_iff (addresses : List (AddressFamily × String))
    (address : String) : outwardAddress? addresses = some address ↔
      ∃ front back, addresses = front ++ (.ipv4, address) :: back ∧
        IsOutward (.ipv4, address) ∧ ∀ a ∈ front, ¬ IsOutward a := by
  have houtward (a : AddressFamily × String) :
      (a.1 = .ipv4 && !a.2.startsWith "127.") = true ↔ IsOutward a := by
    simp [IsOutward]
  simp only [outwardAddress?, Option.map_eq_some_iff, List.find?_eq_some_iff_append,
    Bool.not_eq_true', ← Bool.not_eq_true, houtward]
  constructor
  · rintro ⟨⟨family, _⟩, ⟨houtward, front, back, rfl, hfront⟩, rfl⟩
    obtain rfl : family = .ipv4 := houtward.1
    exact ⟨front, back, rfl, houtward, hfront⟩
  · rintro ⟨front, back, rfl, houtward, hfront⟩
    exact ⟨(.ipv4, address), ⟨houtward, front, back, rfl, hfront⟩, rfl⟩

/-- The address that is taken is the one that comes first. -/
theorem firstAddress?_eq_some_iff (interfaces : List Interface)
    (addresses : List (String × List (AddressFamily × String))) (address : String) :
    firstAddress? interfaces addresses = some address ↔
      ComesFirst interfaces addresses address := by
  have hlisted (i : Interface) : ((addresses.find? (·.1 = i.name)).bind fun a =>
      outwardAddress? a.2) = outwardAddress? (listed addresses i.name) := by
    rw [listed]
    cases addresses.find? (·.1 = i.name) <;> rfl
  simp only [firstAddress?, hlisted, List.findSome?_eq_some_iff]
  constructor
  · rintro ⟨before, i, after, hsplit, hfound, hbefore⟩
    obtain ⟨before', rest, rfl, rfl, hrest⟩ := List.filter_eq_append_iff.mp hsplit
    obtain ⟨skipped, after', rfl, hskipped, hi, -⟩ := List.filter_eq_cons_iff.mp hrest
    obtain ⟨front, back, hsplit, houtward, hfront⟩ :=
      (outwardAddress?_eq_some_iff _ _).mp hfound
    refine ⟨before' ++ skipped, i, after', front, back, (List.append_assoc ..).symm,
      (qualifies_iff i).mp hi, hsplit, houtward, fun j hj hleads => ?_, hfront⟩
    have hq : Qualifies j = true := (qualifies_iff j).mpr hleads
    rcases List.mem_append.mp hj with hj | hj
    · exact (outwardAddress?_eq_none_iff _).mp (hbefore j (List.mem_filter.mpr ⟨hj, hq⟩))
    · exact absurd hq (hskipped j hj)
  · rintro ⟨before, i, after, front, back, rfl, hi, hsplit, houtward, hbefore, hfront⟩
    refine ⟨before.filter Qualifies, i, after.filter Qualifies, ?_,
      (outwardAddress?_eq_some_iff _ _).mpr ⟨front, back, hsplit, houtward, hfront⟩,
      fun j hj => ?_⟩
    · rw [List.filter_append, List.filter_cons_of_pos ((qualifies_iff i).mpr hi)]
    · obtain ⟨hj, hq⟩ := List.mem_filter.mp hj
      exact (outwardAddress?_eq_none_iff _).mpr (hbefore j hj ((qualifies_iff j).mp hq))

/-! ## Asking -/

variable {σ : Type} (w : World σ)

theorem ask_run {α : Type} (question : Machine → Except Failure α) (s : σ) (n : Nat) :
    (ask w question).run (w.asked s n) =
      ⟨question (w.machineAfter s n), w.asked s (n + 1), []⟩ := rfl

/-- The second of two questions is put if the first is answered. -/
theorem ask_ask_run {α β γ : Type} (first : Machine → Except Failure α)
    (second : α → Machine → Except Failure β) (f : α → β → γ) (s : σ) (n : Nat) :
    (do
      let x ← ask w first
      let y ← ask w (second x)
      return f x y).run (w.asked s n) =
      match first (w.machineAfter s n) with
      | .error e => ⟨.error e, w.asked s (n + 1), []⟩
      | .ok x => ⟨f x <$> second x (w.machineAfter s (n + 1)), w.asked s (n + 2), []⟩ := by
  have hfirst := ask_run w first s n
  rcases hx : first (w.machineAfter s n) with e | x
  · rw [hx] at hfirst
    exact Act.run_bind_of_error hfirst
  rw [hx] at hfirst
  have hsecond := ask_run w (second x) s (n + 1)
  rw [Act.run_bind_of_ok hfirst]
  dsimp only
  rcases hy : second x (w.machineAfter s (n + 1)) with e | y
  · rw [hy] at hsecond
    rw [Act.run_bind_of_error hsecond]
    rfl
  · rw [hy] at hsecond
    rw [Act.run_bind_of_ok hsecond]
    rfl

section

variable {τ α : Type} {caught : Kind → Bool} {a : Act τ α} {instead : Failure → Act τ α}
  {s t : τ} {es : List Event}

theorem onFailure_of_ok {x : α} (h : a.run s = ⟨.ok x, t, es⟩) :
    (onFailure caught a instead).run s = ⟨.ok x, t, es⟩ := by
  have hattempt : a.attempt.run s = ⟨.ok (.ok x), t, es⟩ := by rw [Act.run_attempt, h]
  rw [onFailure, Act.run_bind_of_ok hattempt]
  simp

theorem onFailure_of_error {e : Failure} (h : a.run s = ⟨.error e, t, es⟩)
    (hc : caught e.kind = true) : (onFailure caught a instead).run s =
      let r := (instead e).run t
      ⟨r.result, r.state, es ++ r.events⟩ := by
  have hattempt : a.attempt.run s = ⟨.ok (.error e), t, es⟩ := by rw [Act.run_attempt, h]
  rw [onFailure, Act.run_bind_of_ok hattempt]
  simp only [hc, if_true]

end

/-- An address that the interfaces give, if they and their addresses can be listed. -/
def OnInterface (s : σ) (address : String) : Prop :=
  ∃ interfaces addresses, (w.machineAfter s 0).interfaces = .ok interfaces ∧
    (w.machineAfter s 1).addresses = .ok addresses ∧ ComesFirst interfaces addresses address

/-- How many questions it takes to list the interfaces: their addresses are not asked for if
that fails already. -/
def listingQuestions (s : σ) : Nat :=
  match (w.machineAfter s 0).interfaces with
  | .ok _ => 2
  | .error _ => 1

/-- What the machine's full name is found to stand for, after `n` questions. -/
def StandsFor (s : σ) (n : Nat) (address : String) : Prop :=
  ∃ name, (w.machineAfter s n).fullName = .ok name ∧
    (w.machineAfter s (n + 1)).lookup name = .ok address

/-- `address` is the machine's address, asked for from the state `s` on: the one that its
interfaces give, or otherwise what its full name stands for, if either is to be had. -/
structure IsAddress (s : σ) (address : Option String) : Prop where
  onInterface : ∀ a, OnInterface w s a → address = some a
  ofFullName : (¬ ∃ a, OnInterface w s a) →
    ∀ a, address = some a ↔ StandsFor w s (listingQuestions w s) a

variable (hw : ∀ s, (w.machine s).1.Fallible)

include hw in
/-- To look for an address on the interfaces does not fail. -/
theorem interfaceAddress_run (s : σ) : ∃ address es,
    (interfaceAddress w).run s = ⟨.ok address, w.asked s (listingQuestions w s), es⟩ ∧
      ∀ a, address = some a ↔ OnInterface w s a := by
  have hlisting := ask_ask_run w (·.interfaces) (fun _ => (·.addresses)) firstAddress? s 0
  have hcaught {e : Failure} (h : e.kind.isSystem = true ∨ e.kind = .accessDenied) :
      isListingFailure e.kind = true := by
    simpa [isListingFailure] using h
  let failed (e : Failure) : List Event :=
    [.log .debug ("Interface enumeration failed: " ++ e.message)]
  unfold interfaceAddress
  rcases hi : (w.machineAfter s 0).interfaces with e | interfaces
  · have hlist : listingQuestions w s = 1 := by rw [listingQuestions, hi]
    rw [hi] at hlisting
    rw [hlist]
    refine ⟨none, failed e, ?_, fun a => by simp [OnInterface, hi]⟩
    exact onFailure_of_error hlisting (hcaught ((hw _).interfaces e hi))
  have hlist : listingQuestions w s = 2 := by rw [listingQuestions, hi]
  rw [hlist]
  rcases ha : (w.machineAfter s 1).addresses with e | addresses
  · simp only [hi, ha] at hlisting
    refine ⟨none, failed e, ?_, fun a => by simp [OnInterface, ha]⟩
    exact onFailure_of_error hlisting (hcaught ((hw _).addresses e ha))
  · simp only [hi, ha] at hlisting
    refine ⟨firstAddress? interfaces addresses, [], onFailure_of_ok hlisting, fun a => ?_⟩
    simp [OnInterface, hi, ha, firstAddress?_eq_some_iff]

include hw in
/-- To ask what the full name stands for does not fail. -/
theorem standsFor_run (s : σ) (n : Nat) : ∃ address t es,
    (onFailure Kind.isSystem
      (do
        let name ← ask w (·.fullName)
        let address ← ask w (·.lookup name)
        return some address)
      fun e => do
        Act.log .debug ("Own FQDN lookup failed: " ++ e.message)
        return none).run (w.asked s n) = ⟨.ok address, t, es⟩ ∧
      ∀ a, address = some a ↔ StandsFor w s n a := by
  have hlookup := ask_ask_run w (·.fullName) (fun name => (·.lookup name)) (fun _ => some) s n
  let failed (e : Failure) : List Event := [.log .debug ("Own FQDN lookup failed: " ++ e.message)]
  rcases hn : (w.machineAfter s n).fullName with e | name
  · rw [hn] at hlookup
    exact ⟨none, w.asked s (n + 1), failed e, onFailure_of_error hlookup ((hw _).fullName e hn),
      fun a => by simp [StandsFor, hn]⟩
  rcases hl : (w.machineAfter s (n + 1)).lookup name with e | address
  · simp only [hn, hl] at hlookup
    exact ⟨none, w.asked s (n + 2), failed e, onFailure_of_error hlookup ((hw _).lookup name e hl),
      fun a => by simp [StandsFor, hn, hl]⟩
  · simp only [hn, hl] at hlookup
    exact ⟨some address, w.asked s (n + 2), [], onFailure_of_ok hlookup,
      fun a => by simp [StandsFor, hn, hl]⟩

include hw in
/-- To look for the machine's address does not fail. -/
theorem primaryAddress_run (s : σ) : ∃ address t es,
    (primaryAddress w).run s = ⟨.ok address, t, es⟩ ∧ IsAddress w s address := by
  obtain ⟨found, es, hrun, hfound⟩ := interfaceAddress_run w hw s
  unfold primaryAddress
  rw [Act.run_bind_of_ok hrun]
  rcases found with _ | a
  · have hnone : ¬ ∃ a, OnInterface w s a := fun ⟨a, h⟩ => nomatch (hfound a).mpr h
    obtain ⟨address, t, es', hrest, hstands⟩ := standsFor_run w hw s (listingQuestions w s)
    refine ⟨address, t, es ++ es', ?_, fun a h => absurd ⟨a, h⟩ hnone, fun _ => hstands⟩
    dsimp only
    rw [hrest]
  · have hon : OnInterface w s a := (hfound a).mp rfl
    exact ⟨some a, _, _, rfl, fun a' h => (hfound a').mpr h, fun hnone => absurd ⟨a, hon⟩ hnone⟩

/-! ## All names -/

/-- A name as far as its first dot. -/
def IsFirstPart (part name : String) : Prop :=
  '.' ∉ part.toList ∧ (name = part ∨ ∃ rest, name = part ++ "." ++ rest)

theorem isFirstPart_shortName (name : String) : IsFirstPart (shortName name) name := by
  have hsplit : name = shortName name ++ String.ofList (name.toList.dropWhile (· ≠ '.')) := by
    rw [shortName, ← String.ofList_append, List.takeWhile_append_dropWhile, String.ofList_toList]
  refine ⟨fun h => ?_, ?_⟩
  · rw [shortName, String.toList_ofList] at h
    simpa using List.mem_takeWhile_imp h
  · rcases hrest : name.toList.dropWhile (· ≠ '.') with _ | ⟨c, rest⟩
    · rw [hrest] at hsplit
      exact .inl (hsplit.trans String.append_empty)
    · obtain rfl : c = '.' := by
        have hhead := List.head_dropWhile_not (· ≠ '.') (l := name.toList)
          (by rw [hrest]; exact List.cons_ne_nil c rest)
        simpa only [hrest, List.head_cons, decide_eq_false_iff_not, not_not] using hhead
      rw [hrest, String.ofList_cons] at hsplit
      exact .inr ⟨String.ofList rest, hsplit.trans (String.append_assoc ..).symm⟩

theorem IsFirstPart.eq_shortName {part name : String} (h : IsFirstPart part name) :
    part = shortName name := by
  have hall : ∀ c ∈ part.toList, decide (c ≠ '.') = true := fun c hc => by
    refine decide_eq_true fun hdot => ?_
    exact h.1 (hdot ▸ hc)
  rcases h.2 with rfl | ⟨rest, rfl⟩
  · rw [shortName, List.takeWhile_eq_self_iff.mpr hall, String.ofList_toList]
  · rw [shortName, String.append_assoc, String.toList_append, List.takeWhile_append_of_pos hall]
    simp

/-- A question for a name is answered, with the empty name in place of a failure. -/
theorem orEmpty_run (question : Machine → Except Failure String) (text : String) (s : σ) (n : Nat)
    (h : ∀ e, question (w.machineAfter s n) = .error e → e.kind.isSystem = true) : ∃ es,
    (onFailure Kind.isSystem (ask w question) fun e => do
        Act.log .debug (text ++ e.message)
        return "").run (w.asked s n) =
      ⟨.ok ((question (w.machineAfter s n)).toOption.getD ""), w.asked s (n + 1), es⟩ := by
  have hask := ask_run w question s n
  rcases hq : question (w.machineAfter s n) with e | name
  · rw [hq] at hask
    exact ⟨[.log .debug (text ++ e.message)], onFailure_of_error hask (h e hq)⟩
  · rw [hq] at hask
    exact ⟨[], onFailure_of_ok hask⟩

/-- The names that are answered, without the empty one. -/
theorem mem_answers (host full : Except Failure String) (address : Option String) (n : String) :
    n ∈ [host.toOption.getD "", shortName (host.toOption.getD ""), full.toOption.getD "",
        address.getD ""] ∧ n ≠ "" ↔
      n ≠ "" ∧ (host = .ok n ∨ (∃ name, host = .ok name ∧ IsFirstPart n name) ∨
        full = .ok n ∨ address = some n) := by
  have hname (answer : Except Failure String) (hn : n ≠ "") :
      n = answer.toOption.getD "" ↔ answer = .ok n := by
    cases answer <;> simp [Except.toOption, hn, eq_comm]
  have haddress (hn : n ≠ "") : n = address.getD "" ↔ address = some n := by
    cases address <;> simp [hn, eq_comm]
  have hpart (hn : n ≠ "") : n = shortName (host.toOption.getD "") ↔
      ∃ name, host = .ok name ∧ IsFirstPart n name := by
    rcases host with e | name
    · simp [Except.toOption, shortName, hn]
    · simp only [Except.toOption, Option.getD_some, Except.ok.injEq, exists_eq_left']
      exact ⟨fun h => h ▸ isFirstPart_shortName name, IsFirstPart.eq_shortName⟩
  rw [and_comm]
  refine and_congr_right fun hn => ?_
  simp only [List.mem_cons, List.not_mem_nil, or_false, hname _ hn, haddress hn, hpart hn]

include hw in
/-- To look for the names of a machine, or for its address, does not fail, whatever the machine
answers and however it fails to:

* the address is the first outward one, by the order of the interfaces and then by that of their
  addresses, of the interfaces that lead out, or otherwise what the full name stands for;
* the names are the loopback names, the host name, its first part, the full name and the
  address, as far as they are answered and not empty. -/
theorem names_discovered (s : σ) :
    (∃ address, ((primaryAddress w).run s).result = .ok address ∧ IsAddress w s address) ∧
    ∃ found address, ((discover w).run s).result = .ok found ∧
      IsAddress w (w.asked s 2) address ∧
      ∀ n, n ∈ found ↔ n ≠ "" ∧ (n = "localhost" ∨ n = "127.0.0.1" ∨
        (w.machineAfter s 0).hostName = .ok n ∨
        (∃ host, (w.machineAfter s 0).hostName = .ok host ∧ IsFirstPart n host) ∨
        (w.machineAfter s 1).fullName = .ok n ∨ address = some n) := by
  constructor
  · obtain ⟨address, t, es, hrun, haddress⟩ := primaryAddress_run w hw s
    exact ⟨address, congrArg Ran.result hrun, haddress⟩
  obtain ⟨es₀, hhost⟩ := orEmpty_run w (·.hostName) "Hostname lookup failed: " s 0
    (hw _).hostName
  obtain ⟨es₁, hfull⟩ := orEmpty_run w (·.fullName) "FQDN lookup failed: " s 1 (hw _).fullName
  obtain ⟨address, t, es₂, hrun, haddress⟩ := primaryAddress_run w hw (w.asked s 2)
  let host := ((w.machineAfter s 0).hostName).toOption.getD ""
  let full := ((w.machineAfter s 1).fullName).toOption.getD ""
  refine ⟨[host, shortName host, full, address.getD ""].foldl addName loopbackNames, address, ?_,
    haddress, fun n => ?_⟩
  · show ((discover w).run (w.asked s 0)).result = _
    unfold discover
    rw [Act.run_bind_of_ok hhost]
    dsimp only
    rw [Act.run_bind_of_ok hfull]
    dsimp only
    rw [Act.run_bind_of_ok hrun]
    rfl
  · have hloopback : n ∈ loopbackNames ↔ n ≠ "" ∧ (n = "localhost" ∨ n = "127.0.0.1") := by
      simp only [loopbackNames, List.mem_cons, List.not_mem_nil, or_false]
      exact ⟨fun h => ⟨by rcases h with rfl | rfl <;> decide, h⟩, And.right⟩
    rw [mem_foldl_addName, mem_answers, hloopback, ← and_or_left]
    simp only [or_assoc]

end Identity

/-- A machine of which the first question finds an interface with an address. Later on its only
interface that leads out has none but that of another family, and its full name is lost for
the length of one question. -/
def World.patchy : World Nat where
  control _ n := .finish (.ok ()) n
  process _ _ _ n := (.timedOut, n)
  connect _ _ n := (.error .unknownHome, n)
  runOver _ _ _ n := (.timedOut, n)
  machine n :=
    ({ hostName := .ok "ctl.lan"
       fullName := if n = 1 then .error (.raised (.system .nameLookup) "lost" []) else .ok "ctl"
       lookup := fun name => if name = "ctl" then .ok "10.0.0.7"
         else .error (.raised (.system .nameLookup) "unknown" [])
       interfaces := .ok [⟨"lo", true, none⟩, ⟨"tap", false, none⟩,
         ⟨"dummy", true, some "up,loopback"⟩, ⟨if n = 0 then "eth" else "tun", true, some "up"⟩]
       addresses := .ok [("dummy", [(.ipv4, "10.9.9.9")]), ("tun", [(.ipv6, "fe80::1")]),
         ("eth", [(.ipv6, "fe80::2"), (.ipv4, "127.0.0.2"), (.ipv4, "10.0.0.5")])] }, n + 1)
  callback _ _ _ n := .finish (.ok ()) n
  buildContext n := (⟨"", .error .unknownHome⟩, n)
  closeContext _ n := (.error .unknownHome, n)
  homeOf _ := none

/-- The full name is asked for twice. It is missing among the names, but what it stands for is
found. -/
theorem Identity.names_discovered_patchy :
    (∀ n, (World.patchy.machine n).1.Fallible) ∧
    ((primaryAddress .patchy).run 0).result = .ok (some "10.0.0.5") ∧
    ∃ found, ((discover .patchy).run 0).result = .ok found ∧
      ∀ n, n ∈ found ↔ n ∈ ["localhost", "127.0.0.1", "ctl.lan", "ctl", "10.0.0.7"] := by
  have hfallible (n : Nat) : (World.patchy.machine n).1.Fallible := by
    refine ⟨nofun, fun e h => ?_, fun name e h => ?_, nofun, nofun⟩
    · simp only [World.patchy] at h
      split at h
      · rw [← Except.error.inj h]
        rfl
      · cases h
    · simp only [World.patchy] at h
      split at h
      · cases h
      · rw [← Except.error.inj h]
        rfl
  obtain ⟨⟨first, hrun, hfirst⟩, found, address, hfound, haddress, hnames⟩ :=
    names_discovered .patchy hfallible 0
  have hidle (i : Interface) (hi : i ∈ [(⟨"lo", true, none⟩ : Interface), ⟨"tap", false, none⟩,
      ⟨"dummy", true, some "up,loopback"⟩]) : ¬ i.LeadsOut := by
    intro hleads
    simp only [List.mem_cons, List.not_mem_nil, or_false] at hi
    rcases hi with rfl | rfl | rfl
    · exact hleads.name rfl
    · cases hleads.up
    · exact hleads.flags _ rfl ⟨"up,".toList, [], rfl⟩
  have hthen : first = some "10.0.0.5" := by
    have heth : (⟨"eth", true, some "up"⟩ : Interface).LeadsOut := by
      refine ⟨rfl, by decide, ?_⟩
      rintro _ ⟨⟩ h
      exact absurd h.length_le (by decide)
    refine hfirst.onInterface _ ⟨_, _, rfl, rfl, _, _, [], [(.ipv6, "fe80::2"),
      (.ipv4, "127.0.0.2")], [], rfl, heth, rfl, ⟨rfl, by decide⟩,
      fun j hj hleads => absurd hleads (hidle j hj), fun a ha => ?_⟩
    simp only [List.mem_cons, List.not_mem_nil, or_false] at ha
    rcases ha with rfl | rfl
    · exact fun h => nomatch h.1
    · exact fun h => h.2 ⟨"0.0.2".toList, rfl⟩
  have hnone : ¬ ∃ a, OnInterface .patchy (World.patchy.asked 0 2) a := by
    rintro ⟨a, _, _, ⟨⟩, ⟨⟩, before, i, after, front, back, hsplit, hleads, hlisted, -⟩
    have hi := hsplit ▸ List.mem_append_right before (List.mem_cons_self (l := after))
    rcases List.mem_append.mp (show i ∈ [_, _, _] ++ [_] from hi) with hi | hi
    · exact hidle i hi hleads
    · obtain rfl := List.mem_singleton.mp hi
      have hmem := hlisted ▸ List.mem_append_right front (List.mem_cons_self (l := back))
      simp only [listed] at hmem
      revert hmem
      simp [World.asked, World.patchy]
  have hlater : address = some "10.0.0.7" :=
    (haddress.ofFullName hnone _).mpr ⟨"ctl", rfl, rfl⟩
  have hhost : (World.patchy.machineAfter 0 0).hostName = .ok "ctl.lan" := rfl
  have hfull (n : String) : (World.patchy.machineAfter 0 1).fullName ≠ .ok n := nofun
  have hpart (n : String) : IsFirstPart n "ctl.lan" ↔ n = "ctl" := by
    have hshort : shortName "ctl.lan" = "ctl" := by decide
    exact ⟨fun h => h.eq_shortName.trans hshort,
      fun h => h.trans hshort.symm ▸ isFirstPart_shortName "ctl.lan"⟩
  refine ⟨hfallible, hthen ▸ hrun, found, hfound, fun n => ?_⟩
  simp only [hnames, hhost, hfull, hlater, Except.ok.injEq, Option.some.injEq, exists_eq_left',
    hpart, eq_comm (b := n), List.mem_cons, List.not_mem_nil, or_false, false_or]
  refine ⟨And.right, fun h => ⟨?_, h⟩⟩
  rcases h with rfl | rfl | rfl | rfl | rfl <;> decide

end ServerFleet
