/-!
# Classes of characters

A class of characters is a table of ranges of code points, both ends included
and in ascending order. `CharClass.has` asks whether a character is in one.
-/

namespace ServerFleet.Text

/-- A set of characters, as ascending ranges of code points. -/
structure CharClass where
  ranges : List (Nat × Nat)

/-- Whether `c` lies in one of the ranges. -/
def CharClass.has (k : CharClass) (c : Char) : Bool :=
  k.ranges.any fun r => r.1 ≤ c.toNat && c.toNat ≤ r.2

theorem CharClass.has_iff (k : CharClass) (c : Char) :
    k.has c = true ↔ ∃ r ∈ k.ranges, r.1 ≤ c.toNat ∧ c.toNat ≤ r.2 := by
  simp [CharClass.has]

end ServerFleet.Text
