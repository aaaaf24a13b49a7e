import ServerFleet.Text.CaseTable

/-!
# Lower case

`lowercase` writes every letter in lower case. A letter becomes one letter, with
two exceptions: the dotted capital I keeps its dot as a combining mark, and a
capital sigma that ends a word becomes the final form of the small sigma.

* `lowerAfter_map_toLower`: the ASCII case of a text makes no difference.
-/

namespace ServerFleet.Text

/-- The lower-case form of a character, by itself. -/
def lowerChar (c : Char) : Char :=
  if c.toNat < 0x80 then c.toLower
  else match lowerRuns.find? (·.has c.toNat) with
    | some r => Char.ofNat (c.toNat + r.shift).toNat
    | none => c

/-- Whether the first character that is not passed over is cased. -/
def nextIsCased (cs : List Char) : Bool :=
  ((cs.dropWhile caseIgnorable.has).head?.map cased.has).getD false

/-- The lower-case form of `c` between `before`, nearest character first, and
`after`. -/
def lowerBetween (before : List Char) (c : Char) (after : List Char) : List Char :=
  if c = 'Σ' then [if nextIsCased before && !nextIsCased after then 'ς' else 'σ']
  else if c = 'İ' then ['i', '\u0307']
  else [lowerChar c]

/-- The lower-case form of a text that follows `before`. -/
def lowerAfter : List Char → List Char → List Char
  | _, [] => []
  | before, c :: cs => lowerBetween before c cs ++ lowerAfter (c :: before) cs

/-- A text in lower case. -/
def lowercase (s : String) : String := String.ofList (lowerAfter [] s.toList)

/-- Only the empty text is empty in lower case. -/
theorem lowerAfter_eq_nil_iff (before cs : List Char) : lowerAfter before cs = [] ↔ cs = [] := by
  cases cs with
  | nil => exact Iff.rfl
  | cons c cs =>
    have hc : lowerBetween before c cs ≠ [] := by
      unfold lowerBetween
      split
      · exact List.cons_ne_nil _ _
      split <;> exact List.cons_ne_nil _ _
    simp [lowerAfter, hc]

/-! ## The case of ASCII letters -/

/-- What relates every character to itself, and the small form of every ASCII letter to its
capital form, relates the ASCII lower case of every character to the character. -/
theorem rel_toLower {R : Char → Char → Prop} (hself : ∀ c, R c c)
    (hletter : ∀ n < 26, R (Char.ofNat (0x61 + n)) (Char.ofNat (0x41 + n))) (c : Char) :
    R c.toLower c := by
  by_cases h : 'A'.val ≤ c.val ∧ c.val ≤ 'Z'.val
  · have hlow : 0x41 ≤ c.toNat := UInt32.le_iff_toNat_le.mp h.1
    have hhigh : c.toNat ≤ 0x5a := UInt32.le_iff_toNat_le.mp h.2
    have hn : c.toNat - 0x41 < 26 := by omega
    have hc : Char.ofNat (0x41 + (c.toNat - 0x41)) = c := by
      rw [Nat.add_sub_cancel' hlow, Char.ofNat_toNat]
    have hlower : ∀ n < 26, (Char.ofNat (0x41 + n)).toLower = Char.ofNat (0x61 + n) := by decide
    have hr := hletter _ hn
    rw [← hlower _ hn, hc] at hr
    exact hr
  · have hc : c.toLower = c := dif_neg h
    rw [hc]
    exact hself c

/-- No ASCII letter is passed over. -/
theorem caseIgnorable_letter {c : Char}
    (h : 0x41 ≤ c.toNat ∧ c.toNat ≤ 0x5a ∨ 0x61 ≤ c.toNat ∧ c.toNat ≤ 0x7a) :
    caseIgnorable.has c = false := by
  have hranges : ∀ r ∈ caseIgnorable.ranges,
      r.2 < 0x41 ∨ 0x5a < r.1 ∧ r.2 < 0x61 ∨ 0x7a < r.1 := by decide +kernel
  rw [Bool.eq_false_iff, Ne, CharClass.has_iff]
  rintro ⟨r, hr, hlow, hhigh⟩
  have hr := hranges r hr
  omega

theorem nextIsCased_map_toLower (cs : List Char) :
    nextIsCased (cs.map Char.toLower) = nextIsCased cs := by
  have hletter : ∀ n < 26, (Char.ofNat (0x61 + n)).toNat = 0x61 + n ∧
      (Char.ofNat (0x41 + n)).toNat = 0x41 + n := by decide
  have hignored : ∀ n < 26, caseIgnorable.has (Char.ofNat (0x61 + n)) =
      caseIgnorable.has (Char.ofNat (0x41 + n)) := by
    intro n hn
    obtain ⟨hsmall, hcapital⟩ := hletter n hn
    rw [caseIgnorable_letter (by omega), caseIgnorable_letter (by omega)]
  have hcased : ∀ n < 26, cased.has (Char.ofNat (0x61 + n)) = cased.has (Char.ofNat (0x41 + n)) := by
    decide +kernel
  have hi : caseIgnorable.has ∘ Char.toLower = caseIgnorable.has :=
    funext (rel_toLower (R := fun d c => caseIgnorable.has d = caseIgnorable.has c)
      (fun _ => rfl) hignored)
  have hc : cased.has ∘ Char.toLower = cased.has :=
    funext (rel_toLower (R := fun d c => cased.has d = cased.has c) (fun _ => rfl) hcased)
  rw [nextIsCased, List.dropWhile_map, hi, List.head?_map, Option.map_map, hc, nextIsCased]

theorem lowerBetween_toLower (before : List Char) (c : Char) (after : List Char) :
    lowerBetween before c.toLower after = lowerBetween before c after := by
  have hplain {d e : Char} (h : d ≠ 'Σ' ∧ d ≠ 'İ' ∧ lowerChar d = e) :
      lowerBetween before d after = [e] := by
    obtain ⟨hsigma, hdotted, hlower⟩ := h
    simp only [lowerBetween, hsigma, hdotted, hlower, if_false]
  have hsmall : ∀ n < 26, Char.ofNat (0x61 + n) ≠ 'Σ' ∧ Char.ofNat (0x61 + n) ≠ 'İ' ∧
      lowerChar (Char.ofNat (0x61 + n)) = Char.ofNat (0x61 + n) := by decide
  have hcapital : ∀ n < 26, Char.ofNat (0x41 + n) ≠ 'Σ' ∧ Char.ofNat (0x41 + n) ≠ 'İ' ∧
      lowerChar (Char.ofNat (0x41 + n)) = Char.ofNat (0x61 + n) := by decide
  refine rel_toLower (R := fun d c => lowerBetween before d after = lowerBetween before c after)
    (fun _ => rfl) (fun n hn => ?_) c
  rw [hplain (hsmall n hn), hplain (hcapital n hn)]

/-- The ASCII case of a text makes no difference in lower case. -/
theorem lowerAfter_map_toLower (before cs : List Char) :
    lowerAfter (before.map Char.toLower) (cs.map Char.toLower) = lowerAfter before cs := by
  induction cs generalizing before with
  | nil => rfl
  | cons c cs ih =>
    -- A neighbour in ASCII lower case is cased, or passed over, as it was.
    have hbetween : lowerBetween (before.map Char.toLower) c (cs.map Char.toLower) =
        lowerBetween before c cs := by
      simp only [lowerBetween, nextIsCased_map_toLower]
    have hrest := ih (c :: before)
    rw [List.map_cons] at hrest
    rw [List.map_cons, lowerAfter, lowerAfter, lowerBetween_toLower, hbetween, hrest]

end ServerFleet.Text
