import ServerFleet.Proofs.Calls

/-!
# Command lines are read back

A command line that is written from words is read as those words, whatever
characters are in them. A word that needs no quoting is read bare, and in one that
is quoted no character is bare (`Text.Shell.quoted`), so that the writing of a word
does not depend on what stands around it.

* `Text.Shell.readFrom_quoteChars`: a word is read to its end, in the middle of
  another one too;
* `Text.Shell.readWords_assign`: the line of an assignment and a command;
* `Dispatch.commandLine_reads_back`: the call of an instance on another host reads
  as the assignment and the words with which it is run on this one.
-/

namespace ServerFleet

namespace Text.Shell

/-- A word as it is read after `quoteChars` has written it. -/
def quoted (cs : List Char) : List Written := cs.map fun c => ⟨c, cs.all isSafe⟩

theorem textOf_append (v w : List Written) : textOf (v ++ w) = textOf v ++ textOf w := by
  simp [textOf]

theorem textOf_map (cs : List Char) (bare : Bool) :
    textOf (cs.map (⟨·, bare⟩)) = String.ofList cs := by
  simp [textOf, Function.comp_def]

theorem textOf_quoted (s : String) : textOf (quoted s.toList) = s := by
  rw [quoted, textOf_map, String.ofList_toList]

/-- A character that needs no quoting means nothing but itself. -/
theorem plain_of_isSafe {c : Char} (h : isSafe c = true) :
    isSeparator c = false ∧ c ≠ '\x5c' ∧ isQuote c = false := by
  refine ⟨Bool.eq_false_iff.mpr fun hc => ?_, ?_, Bool.eq_false_iff.mpr fun hc => ?_⟩
  · simp only [isSeparator, Bool.or_eq_true, decide_eq_true_eq] at hc
    rcases hc with ((rfl | rfl) | rfl) | rfl <;> exact absurd h (by decide)
  · rintro rfl
    exact absurd h (by decide)
  · simp only [isQuote, Bool.or_eq_true, decide_eq_true_eq] at hc
    rcases hc with rfl | rfl <;> exact absurd h (by decide)

/-- The characters of a name need no quoting. -/
theorem isSafe_of_isNameChar {c : Char} (h : isNameChar c = true) : isSafe c = true := by
  simp only [isNameChar, Bool.or_eq_true, decide_eq_true_eq] at h
  rcases h with h | rfl
  · simp [isSafe, h]
  · decide

theorem isNameChar_of_isName {name : String} (h : isName name = true) :
    ∀ c ∈ name.toList, isNameChar c = true := by
  intro c hc
  rw [isName] at h
  cases hl : name.toList with
  | nil => simp [hl] at hc
  | cons d cs =>
    simp only [hl, Bool.and_eq_true, List.all_eq_true] at h
    rcases List.mem_cons.mp (hl ▸ hc) with rfl | hc
    · have hd := h.1
      simp only [isNameStart, Bool.or_eq_true] at hd
      simp only [isNameChar, Char.isAlphanum, Bool.or_eq_true]
      exact hd.imp_left .inl
    · exact h.2 c hc

theorem isSafe_of_isName {name : String} (h : isName name = true) :
    ∀ c ∈ name.toList, isSafe c = true :=
  fun c hc => isSafe_of_isNameChar (isNameChar_of_isName h c hc)

/-! ## Reading what was written -/

theorem readFrom_bare {cs : List Char} (h : ∀ c ∈ cs, isSafe c = true) (w : List Written)
    (rest : List Char) :
    readFrom .word w (cs ++ rest) = readFrom .word ((cs.map (⟨·, true⟩)).reverse ++ w) rest := by
  induction cs generalizing w with
  | nil => rfl
  | cons c cs ih =>
    obtain ⟨hsep, hesc, hquote⟩ := plain_of_isSafe (h c List.mem_cons_self)
    rw [List.cons_append, readFrom, hsep, hquote]
    simp only [hesc, Bool.false_eq_true, if_false]
    rw [ih fun d hd => h d (List.mem_cons_of_mem _ hd)]
    simp

/-- Between single quotes, a character that `quoteChar` has written is read, and the
quotes are open again after it. -/
theorem readFrom_quoteChar (c : Char) (w : List Written) (rest : List Char) :
    readFrom (.inQuote '\x27') w (quoteChar c ++ rest) =
      readFrom (.inQuote '\x27') (⟨c, false⟩ :: w) rest := by
  by_cases hc : c = '\x27'
  · subst hc
    rfl
  · simp [quoteChar, hc, readFrom]

theorem readFrom_quoteChar_all (cs : List Char) (w : List Written) (rest : List Char) :
    readFrom (.inQuote '\x27') w (cs.flatMap quoteChar ++ rest) =
      readFrom (.inQuote '\x27') ((cs.map (⟨·, false⟩)).reverse ++ w) rest := by
  induction cs generalizing w with
  | nil => rfl
  | cons c cs ih =>
    rw [List.flatMap_cons, List.append_assoc, readFrom_quoteChar, ih]
    simp

/-- A word that was written is read to its end and no further. -/
theorem readFrom_quoteChars (cs : List Char) (w : List Written) (rest : List Char) :
    readFrom .word w (quoteChars cs ++ rest) =
      readFrom .word ((quoted cs).reverse ++ w) rest := by
  unfold quoteChars quoted
  split
  · rename_i hnil
    rw [List.isEmpty_iff.mp hnil]
    rfl
  split
  · rename_i hsafe
    rw [readFrom_bare (List.all_eq_true.mp hsafe), hsafe]
  · rename_i hsafe
    rw [Bool.not_eq_true] at hsafe
    have hopen (tail : List Char) :
        readFrom .word w ('\x27' :: tail) = readFrom (.inQuote '\x27') w tail := rfl
    have hclose (v : List Written) :
        readFrom (.inQuote '\x27') v ('\x27' :: rest) = readFrom .word v rest := rfl
    rw [List.cons_append, List.cons_append, List.append_assoc, hopen, readFrom_quoteChar_all,
      List.singleton_append, hclose, hsafe]

/-- A word begins with the first character that separates no words. -/
theorem readFrom_gap {c : Char} (h : isSeparator c = false) (cs : List Char) :
    readFrom .gap [] (c :: cs) = readFrom .word [] (c :: cs) := by
  rw [readFrom, readFrom, h]
  rfl

theorem quoteChars_eq_cons (cs : List Char) :
    ∃ c tail, quoteChars cs = c :: tail ∧ isSeparator c = false := by
  unfold quoteChars
  split
  · exact ⟨_, _, rfl, rfl⟩
  split
  · rename_i hne hsafe
    cases cs with
    | nil => exact absurd rfl hne
    | cons c cs =>
      exact ⟨c, cs, rfl, (plain_of_isSafe (List.all_eq_true.mp hsafe c List.mem_cons_self)).1⟩
  · exact ⟨_, _, rfl, rfl⟩

theorem readFrom_gap_quoteChars (cs rest : List Char) :
    readFrom .gap [] (quoteChars cs ++ rest) = readFrom .word (quoted cs).reverse rest := by
  obtain ⟨c, tail, hcs, hsep⟩ := quoteChars_eq_cons cs
  rw [hcs, List.cons_append, readFrom_gap hsep, ← List.cons_append, ← hcs, readFrom_quoteChars,
    List.append_nil]

/-- A blank ends a word. -/
theorem readFrom_blank (w : List Written) (rest : List Char) :
    readFrom .word w (' ' :: rest) = (w.reverse :: ·) <$> readFrom .gap [] rest := rfl

/-- Words that were written are read back. -/
theorem readWords_join (ws : List String) :
    readWords (join ws) = .ok (ws.map fun s => quoted s.toList) := by
  induction ws with
  | nil => rfl
  | cons s ws ih =>
    cases ws with
    | nil =>
      have hjoin : (join [s]).toList = quoteChars s.toList ++ [] := by simp [join, quote]
      rw [readWords, hjoin, readFrom_gap_quoteChars, readFrom, List.reverse_reverse]
      rfl
    | cons s' ws =>
      have hjoin : (join (s :: s' :: ws)).toList =
          quoteChars s.toList ++ ' ' :: (join (s' :: ws)).toList := by
        simp [join, quote, String.intercalate_cons_cons]
      rw [readWords] at ih
      rw [readWords, hjoin, readFrom_gap_quoteChars, readFrom_blank, ih, List.reverse_reverse]
      rfl

/-- A command line that begins with an assignment to a name is read back. The name and
the equals sign are bare. -/
theorem readWords_assign {name : String} (hn : isName name = true) (value : String)
    (ws : List String) :
    readWords (name ++ "=" ++ quote value ++ " " ++ join ws) =
      .ok (((name.toList ++ ['=']).map (⟨·, true⟩) ++ quoted value.toList) ::
        ws.map fun s => quoted s.toList) := by
  have hline : (name ++ "=" ++ quote value ++ " " ++ join ws).toList =
      (name.toList ++ ['=']) ++ (quoteChars value.toList ++ ' ' :: (join ws).toList) := by
    simp [quote]
  have hsafe : ∀ c ∈ name.toList ++ ['='], isSafe c = true := by
    intro c hc
    rcases List.mem_append.mp hc with hc | hc
    · exact isSafe_of_isName hn c hc
    · rw [List.mem_singleton.mp hc]
      decide
  have hbegin (rest : List Char) : readFrom .gap [] ((name.toList ++ ['=']) ++ rest) =
      readFrom .word [] ((name.toList ++ ['=']) ++ rest) := by
    cases hl : name.toList ++ ['='] with
    | nil => simp at hl
    | cons c cs =>
      exact readFrom_gap (plain_of_isSafe (hsafe c (by simp [hl]))).1 _
  have hwords := readWords_join ws
  rw [readWords] at hwords
  rw [readWords, hline, hbegin, readFrom_bare hsafe, readFrom_quoteChars, readFrom_blank, hwords]
  simp [Functor.map, Except.map]

/-- As `split` gives them, the words are those that were written. -/
theorem split_assign {name : String} (hn : isName name = true) (value : String)
    (ws : List String) :
    split (name ++ "=" ++ quote value ++ " " ++ join ws) = .ok ((name ++ "=" ++ value) :: ws) := by
  have hassign : textOf ((name.toList ++ ['=']).map (⟨·, true⟩) ++ quoted value.toList) =
      name ++ "=" ++ value := by
    rw [textOf_append, textOf_map, textOf_quoted, String.ofList_append, String.ofList_toList]
  have hwords : (ws.map fun s => quoted s.toList).map textOf = ws := by
    simp [Function.comp_def, textOf_quoted]
  rw [split, readWords_assign hn]
  show Except.ok ((_ :: _ : List (List Written)).map textOf) = _
  rw [List.map_cons, hassign, hwords]

end Text.Shell

namespace Dispatch

/-- Where the launcher and the service script can be read as words and the variable is a
name, a control call is made in the same words everywhere. On this machine they are run
with the variable set. On another host the command line is read as the assignment to the
variable and then the words. -/
theorem commandLine_reads_back {settings : Settings} {launcher script : List String}
    (hl : wordsOf settings.launcher = .ok launcher)
    (hs : wordsOf settings.serviceScript = .ok script)
    (hn : Text.Shell.isName settings.instanceVariable = true)
    (target : Instance) (command : Command) :
    let words := launcher ++ script ++ [target.role.name, command.name]
    serviceWords settings target command = .ok words ∧
    ∃ line, commandLine settings target command = .ok line ∧
      Text.Shell.split line =
        .ok ((settings.instanceVariable ++ "=" ++ target.exported) :: words) ∧
      ∀ (σ : Type) (c : Collaborators σ),
        control settings c false target command = c.runRemote target.host line ∧
        control settings c true target command =
          c.runLocal words [(settings.instanceVariable, target.exported)]
            settings.commandTimeout := by
  intro words
  have hwords : serviceWords settings target command = .ok words := by
    rw [serviceWords, hl, hs]
    rfl
  have hline : commandLine settings target command =
      .ok (settings.instanceVariable ++ "=" ++ Text.Shell.quote target.exported ++ " " ++
        Text.Shell.join words) := by
    rw [commandLine, hwords]
    rfl
  refine ⟨hwords, _, hline, Text.Shell.split_assign hn _ _, fun σ c => ⟨?_, ?_⟩⟩
  · rw [control, hline]
    rfl
  · rw [control, hwords]
    rfl

/-- Empty words, blanks, quotes, line feeds and what a shell would expand reach the other
host as they are. -/
theorem commandLine_reads_back_awkward :
    let settings : Settings :=
      { Settings.twoWorkers with
        launcher := "env 'two words' ''"
        serviceScript := "\"/opt/it's\" 'a\\b\n$(c) é'" }
    let target : Instance := ⟨.worker, "h", 2, true⟩
    let words := ["env", "two words", "", "/opt/it's", "a\\b\n$(c) é", "tserver", "stop"]
    serviceWords settings target .stop = .ok words ∧
    ∃ line, commandLine settings target .stop = .ok line ∧
      Text.Shell.split line = .ok ("NR=2" :: words) ∧
      ∀ (σ : Type) (c : Collaborators σ),
        control settings c false target .stop = c.runRemote "h" line ∧
        control settings c true target .stop = c.runLocal words [("NR", "2")] none := by
  intro settings target words
  have hl : wordsOf settings.launcher = .ok ["env", "two words", ""] := by
    show wordsOf "env 'two words' ''" = _
    rfl
  have hs : wordsOf settings.serviceScript = .ok ["/opt/it's", "a\\b\n$(c) é"] := by
    show wordsOf "\"/opt/it's\" 'a\\b\n$(c) é'" = _
    rfl
  exact commandLine_reads_back hl hs (by decide) target .stop

end Dispatch

end ServerFleet
