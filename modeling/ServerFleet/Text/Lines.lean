/-!
# Lines of a text

A text read from a file first has its line ends made uniform: a carriage
return, alone or before a line feed, becomes a line feed (`uniformEnds`).
`lines` then cuts a text at every line break: line feed, carriage return, both
in a row, vertical tab, form feed, the file, group and record separators, next
line, and the Unicode line and paragraph separators. The break after the last
line starts no further line.

* `lines_unlines`: lines that hold no break are read back from `unlines`;
* `uniform_of_no_return`: a text without carriage returns is uniform already.
-/

namespace ServerFleet.Text

/-- The characters that end a line. -/
def isLineBreak (c : Char) : Bool :=
  c = '\n' || c = '\r' || c = '\x0b' || c = '\x0c' || c = '\x1c' || c = '\x1d' || c = '\x1e' ||
    c = '\x85' || c = '\u2028' || c = '\u2029'

/-- Carriage returns, alone or before a line feed, as line feeds.
`afterReturn` tells that the character before was a carriage return. -/
def uniformEnds (afterReturn : Bool) : List Char → List Char
  | [] => []
  | c :: cs =>
    if c = '\n' && afterReturn then uniformEnds false cs
    else if c = '\r' then '\n' :: uniformEnds true cs
    else c :: uniformEnds false cs

/-- A text with uniform line ends. -/
def uniform (s : String) : String := String.ofList (uniformEnds false s.toList)

/-- The lines of a text whose current line has begun with `line`, last
character first. -/
def linesFrom (afterReturn : Bool) (line : List Char) : List Char → List (List Char)
  | [] => if line.isEmpty then [] else [line.reverse]
  | c :: cs =>
    if c = '\n' && afterReturn then linesFrom false [] cs
    else if isLineBreak c then line.reverse :: linesFrom (c = '\r') [] cs
    else linesFrom false (c :: line) cs

/-- The lines of a text. -/
def lines (s : String) : List String := (linesFrom false [] s.toList).map String.ofList

/-- The text whose lines are `ls`, each ended by a line feed. -/
def unlines (ls : List String) : String := String.join (ls.map (· ++ "\n"))

theorem uniformEnds_of_no_return {cs : List Char} (h : '\r' ∉ cs) : uniformEnds false cs = cs := by
  induction cs with
  | nil => rfl
  | cons c cs ih =>
    simp only [List.mem_cons, not_or] at h
    simp [uniformEnds, Ne.symm h.1, ih h.2]

/-- A text without carriage returns is uniform already. -/
theorem uniform_of_no_return {s : String} (h : '\r' ∉ s.toList) : uniform s = s := by
  simp [uniform, uniformEnds_of_no_return h]

theorem linesFrom_append_newline {l : List Char} (h : ∀ c ∈ l, isLineBreak c = false)
    (line rest : List Char) :
    linesFrom false line (l ++ '\n' :: rest) = (line.reverse ++ l) :: linesFrom false [] rest := by
  induction l generalizing line with
  | nil => simp [linesFrom, isLineBreak]
  | cons c l ih =>
    have hc : isLineBreak c = false := h c (List.mem_cons_self ..)
    simp [linesFrom, hc, ih fun d hd => h d (List.mem_cons_of_mem _ hd)]

theorem toList_unlines (ls : List String) :
    (unlines ls).toList = ls.flatMap fun l => l.toList ++ ['\n'] := by
  simp [unlines, String.toList_join, List.flatMap_map]

/-- Lines that hold no break are read back as they were written. -/
theorem lines_unlines {ls : List String} (h : ∀ l ∈ ls, ∀ c ∈ l.toList, isLineBreak c = false) :
    lines (unlines ls) = ls := by
  unfold lines
  rw [toList_unlines]
  induction ls with
  | nil => rfl
  | cons l ls ih =>
    rw [List.flatMap_cons, List.append_assoc, List.singleton_append,
      linesFrom_append_newline (h l (List.mem_cons_self ..))]
    simp [ih fun m hm => h m (List.mem_cons_of_mem _ hm)]

end ServerFleet.Text
