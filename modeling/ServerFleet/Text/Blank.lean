import ServerFleet.Text.CharClass

/-!
# White space around a text

`isBlank` is the class of white-space characters: the controls tab to carriage
return, the four information separators, space, next line, and the Unicode
spaces and line and paragraph separators. `strip` removes the blanks at both
ends of a text:

* `trim_head`, `trim_last`: no blank is left at either end;
* `trim_eq_self`: a text without blanks at its ends is its own `trim`;
* `trim_surrounded`: blanks around a text make no difference.
-/

namespace ServerFleet.Text

/-- The white-space characters. -/
def blanks : CharClass where
  ranges := [(0x09, 0x0d), (0x1c, 0x20), (0x85, 0x85), (0xa0, 0xa0), (0x1680, 0x1680),
    (0x2000, 0x200a), (0x2028, 0x2029), (0x202f, 0x202f), (0x205f, 0x205f), (0x3000, 0x3000)]

def isBlank (c : Char) : Bool := blanks.has c

/-- The characters left when the blanks at both ends are dropped. -/
def trim (cs : List Char) : List Char :=
  ((cs.dropWhile isBlank).reverse.dropWhile isBlank).reverse

/-- A text without the blanks at its ends. -/
def strip (s : String) : String := String.ofList (trim s.toList)

@[simp] theorem toList_strip (s : String) : (strip s).toList = trim s.toList := by
  simp [strip]

theorem head_dropWhile_isBlank {cs : List Char} {c : Char}
    (h : (cs.dropWhile isBlank).head? = some c) : isBlank c = false := by
  induction cs with
  | nil => simp at h
  | cons a cs ih =>
    by_cases ha : isBlank a = true
    · exact ih (by simpa [List.dropWhile_cons, ha] using h)
    · simp [ha] at h
      subst h
      simpa using ha

/-- Trimming cuts nothing but a tail from what is left after the leading blanks. -/
theorem trim_append (cs : List Char) : ∃ t, trim cs ++ t = cs.dropWhile isBlank := by
  refine ⟨((cs.dropWhile isBlank).reverse.takeWhile isBlank).reverse, ?_⟩
  rw [trim, ← List.reverse_append, List.takeWhile_append_dropWhile, List.reverse_reverse]

/-- The first character of a stripped text is no blank. -/
theorem trim_head {cs : List Char} {c : Char} (h : (trim cs).head? = some c) :
    isBlank c = false := by
  obtain ⟨t, ht⟩ := trim_append cs
  refine head_dropWhile_isBlank (show (cs.dropWhile isBlank).head? = some c from ?_)
  rw [← ht]
  cases hd : trim cs with
  | nil => simp [hd] at h
  | cons a l => simp [hd] at h; simp [h]

/-- The last character of a stripped text is no blank. -/
theorem trim_last {cs : List Char} {c : Char} (h : (trim cs).getLast? = some c) :
    isBlank c = false :=
  head_dropWhile_isBlank
    (by simpa [trim, List.getLast?_reverse] using h)

/-- A text without blanks at its ends is its own `trim`. -/
theorem trim_eq_self {cs : List Char} (h₁ : ∀ c, cs.head? = some c → isBlank c = false)
    (h₂ : ∀ c, cs.getLast? = some c → isBlank c = false) : trim cs = cs := by
  have drop : ∀ l : List Char, (∀ c, l.head? = some c → isBlank c = false) →
      l.dropWhile isBlank = l := by
    intro l hl
    cases l with
    | nil => rfl
    | cons a l => simp [hl a rfl]
  rw [trim, drop cs h₁, drop cs.reverse (by simpa using h₂), List.reverse_reverse]

theorem trim_trim (cs : List Char) : trim (trim cs) = trim cs :=
  trim_eq_self (fun _ => trim_head) (fun _ => trim_last)

/-- Blanks around a text make no difference to what is left of it. -/
theorem trim_surrounded {before after : List Char} (hb : ∀ c ∈ before, isBlank c = true)
    (ha : ∀ c ∈ after, isBlank c = true) (cs : List Char) :
    trim (before ++ cs ++ after) = trim cs := by
  have hafter : after.dropWhile isBlank = [] := by
    rw [← List.append_nil after, List.dropWhile_append_of_pos ha, List.dropWhile_nil]
  have hcut : (cs ++ after).dropWhile isBlank =
      if (cs.dropWhile isBlank).isEmpty then [] else cs.dropWhile isBlank ++ after := by
    rw [List.dropWhile_append, hafter]
  rw [trim, List.append_assoc, List.dropWhile_append_of_pos hb, hcut]
  split
  · rename_i h
    rw [trim, List.isEmpty_iff.mp h]
  · rw [List.reverse_append, List.dropWhile_append_of_pos (by simpa using ha), trim]

/-- Characters that are rewritten without a change to the blanks are trimmed alike. -/
theorem trim_map {f : Char → Char} (h : ∀ c, isBlank (f c) = isBlank c) (cs : List Char) :
    trim (cs.map f) = (trim cs).map f := by
  have hf : isBlank ∘ f = isBlank := funext h
  simp only [trim, List.dropWhile_map, hf, ← List.map_reverse]

end ServerFleet.Text
