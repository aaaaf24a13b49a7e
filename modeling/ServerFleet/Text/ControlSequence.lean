/-!
# Control sequences

A control sequence changes the colours of a terminal or moves its cursor. It is
an escape and an opening bracket, then digits, semicolons and question marks as
its parameters, and a letter. `withoutSequences` takes the sequences out of a
text from its beginning on, so what is left may join to a sequence again, and
that stays.

* `withoutSequences_eq_self`: a text without an escape is left alone.
-/

namespace ServerFleet.Text

/-- The characters of the parameters of a control sequence. -/
def isParameter (c : Char) : Bool := c.isDigit || c = ';' || c = '?'

/-- What follows the control sequence at the beginning, if one is there. -/
def afterSequence? : List Char → Option (List Char)
  | '\x1b' :: '[' :: cs =>
    match cs.dropWhile isParameter with
    | [] => none
    | c :: rest => if c.isAlpha then some rest else none
  | _ => none

theorem suffix_of_afterSequence? {cs rest : List Char} (h : afterSequence? cs = some rest) :
    ∃ sequence, sequence ≠ [] ∧ cs = sequence ++ rest := by
  unfold afterSequence? at h
  split at h
  · rename_i cs
    split at h
    · cases h
    · rename_i c tail hd
      split at h
      · cases h
        refine ⟨'\x1b' :: '[' :: (cs.takeWhile isParameter ++ [c]), by simp, ?_⟩
        have := List.takeWhile_append_dropWhile (p := isParameter) (l := cs)
        rw [hd] at this
        simp [this]
      · cases h
  · cases h

theorem length_lt_of_afterSequence? {cs rest : List Char} (h : afterSequence? cs = some rest) :
    rest.length < cs.length := by
  obtain ⟨sequence, hne, rfl⟩ := suffix_of_afterSequence? h
  have := List.length_pos_iff.mpr hne
  simp only [List.length_append]
  omega

/-- Characters without the control sequences among them. -/
def dropSequences (cs : List Char) : List Char :=
  match _h : afterSequence? cs with
  | some rest => dropSequences rest
  | none => match cs with
    | [] => []
    | c :: cs => c :: dropSequences cs
termination_by cs.length
decreasing_by
  · exact length_lt_of_afterSequence? ‹_›
  · simp

/-- A text without its control sequences. -/
def withoutSequences (s : String) : String := String.ofList (dropSequences s.toList)

theorem dropSequences_nil : dropSequences [] = [] := by
  unfold dropSequences
  rfl

/-- No sequence begins before the first escape. -/
theorem dropSequences_append {cs : List Char} (h : '\x1b' ∉ cs) (rest : List Char) :
    dropSequences (cs ++ rest) = cs ++ dropSequences rest := by
  induction cs with
  | nil => rfl
  | cons c cs ih =>
    simp only [List.mem_cons, not_or] at h
    obtain ⟨hc, hcs⟩ := h
    have hnone : afterSequence? (c :: (cs ++ rest)) = none := by
      unfold afterSequence?
      split
      · simp_all
      · rfl
    rw [List.cons_append, List.cons_append, ← ih hcs]
    conv => lhs; unfold dropSequences
    split
    · rename_i hs
      rw [hnone] at hs
      cases hs
    · rfl

theorem dropSequences_eq_self {cs : List Char} (h : '\x1b' ∉ cs) : dropSequences cs = cs := by
  simpa [dropSequences_nil] using dropSequences_append h []

theorem withoutSequences_append {s : String} (h : '\x1b' ∉ s.toList) (rest : String) :
    withoutSequences (s ++ rest) = s ++ withoutSequences rest := by
  simp [withoutSequences, dropSequences_append h, String.ofList_append]

/-- A text without an escape is left alone. -/
theorem withoutSequences_eq_self {s : String} (h : '\x1b' ∉ s.toList) :
    withoutSequences s = s := by
  simp [withoutSequences, dropSequences_eq_self h]

end ServerFleet.Text
