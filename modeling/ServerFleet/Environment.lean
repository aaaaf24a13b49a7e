import ServerFleet.Text.Blank
import ServerFleet.Text.Lowercase

/-!
# Environment variables

An environment gives texts to names. `get?` looks a name up and `set` gives it a
value, in its place if it has one. `parseFlag` reads a variable as a truth value.

* `get?_set`: a variable has the value it was given, and the others keep theirs.
-/

namespace ServerFleet

abbrev Environment := List (String × String)

namespace Environment

def get? (env : Environment) (name : String) : Option String :=
  (env.find? (·.1 = name)).map (·.2)

def set (name value : String) : Environment → Environment
  | [] => [(name, value)]
  | (n, v) :: env => if n = name then (n, value) :: env else (n, v) :: set name value env

/-- An environment with the variables of another on top. -/
def layer (env extra : Environment) : Environment :=
  extra.foldl (fun e nv => e.set nv.1 nv.2) env

/-- The variables whose values another environment does not have. -/
def changesFrom (env base : Environment) : Environment :=
  env.filter fun nv => base.get? nv.1 != some nv.2

/-- The variables as assignments, in order. -/
def assignments (env : Environment) : List String :=
  (env.map fun nv => nv.1 ++ "=" ++ nv.2).mergeSort fun a b => a ≤ b

theorem get?_set (env : Environment) (name value n : String) :
    (env.set name value).get? n = if n = name then some value else env.get? n := by
  induction env with
  | nil => by_cases h : n = name <;> simp [set, get?, h, eq_comm]
  | cons nv env ih =>
    obtain ⟨n', v⟩ := nv
    simp only [get?] at ih
    by_cases h : n' = name
    · subst h
      by_cases hk : n' = n
      · subst hk; simp [set, get?]
      · simp [set, get?, hk, Ne.symm hk]
    · by_cases hk : n' = n
      · subst hk; simp [set, get?, h]
      · simp [set, get?, h, hk, ih]

end Environment

/-- The words for yes. -/
def affirmatives : List String := ["1", "true", "yes", "on"]

/-- The truth value of a variable: a word for yes, whatever its case and the
blanks around it, is true and any other text is false. -/
def parseFlag (value : String) : Bool :=
  affirmatives.contains (Text.lowercase (Text.strip value))

end ServerFleet
