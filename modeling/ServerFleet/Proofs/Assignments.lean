import ServerFleet.Proofs.CommandLines

/-!
# Words that a shell takes for assignments

The words at the head of a command are assignments to a shell if they are written so. What
a shell makes of a word depends on its place in the line then, and not only on how it was
written: a word that needs no quoting may be a name, an equals sign and a value, and is an
assignment at the head of a line, though it was meant for a program.

* `Text.Shell.assigned?_eq_some_iff`: the words that are assignments as `quote` writes
  them;
* `Text.Shell.SimpleCommand.read_assign`: what a shell makes of an assignment and a
  command;
* `Dispatch.commandLine_runs_words_iff`: the command line for another host runs the words
  that are run on this machine unless the first of them is an assignment.
-/

namespace ServerFleet

namespace Text.Shell

/-- The assignment that a word is to a shell if `quote` has written it at the head of a
command. -/
def assigned? (word : String) : Option (String × String) := assignment? (quoted word.toList)

def isAssigned (word : String) : Bool := (assigned? word).isSome

/-- A name and an equals sign that are bare make an assignment, whatever follows. -/
theorem assignment?_of_isName {name : String} (h : isName name = true) (value : List Written) :
    assignment? ((name.toList ++ ['=']).map (⟨·, true⟩) ++ value) = some (name, textOf value) := by
  let inName (x : Written) : Bool := x.bare && isNameChar x.char
  let written : List Written := name.toList.map (⟨·, true⟩)
  have hall : ∀ x ∈ written, inName x = true := by
    intro x hx
    obtain ⟨c, hc, rfl⟩ := List.mem_map.mp hx
    exact isNameChar_of_isName h c hc
  have hequals : inName ⟨'=', true⟩ = false := by
    show (true && isNameChar '=') = false
    decide
  have hline : (name.toList ++ ['=']).map (⟨·, true⟩) ++ value = written ++ ⟨'=', true⟩ :: value := by
    simp [written]
  have htake : (written ++ ⟨'=', true⟩ :: value).takeWhile inName = written := by
    rw [List.takeWhile_append_of_pos hall, List.takeWhile_cons, hequals]
    exact List.append_nil _
  have hdrop : (written ++ ⟨'=', true⟩ :: value).dropWhile inName = ⟨'=', true⟩ :: value := by
    rw [List.dropWhile_append_of_pos hall, List.dropWhile_cons, hequals]
    rfl
  have hname : textOf written = name := by rw [textOf_map, String.ofList_toList]
  rw [hline, assignment?, hdrop, htake]
  simp only [hname, h, if_true]

/-- An assignment is a name, a bare equals sign and the value. -/
theorem eq_of_assignment? {w : List Written} {name value : String}
    (h : assignment? w = some (name, value)) :
    ∃ front rest, w = front ++ ⟨'=', true⟩ :: rest ∧ textOf front = name ∧ textOf rest = value ∧
      isName name = true := by
  rw [assignment?] at h
  split at h
  · rename_i rest hdrop
    split at h
    · rename_i hname
      obtain ⟨rfl, rfl⟩ := Prod.mk.inj (Option.some.inj h)
      refine ⟨_, rest, ?_, rfl, rfl, hname⟩
      rw [← hdrop]
      exact (List.takeWhile_append_dropWhile).symm
    · cases h
  · cases h

/-- Of the words that `quote` writes, those are assignments that are a name, an equals sign
and a value that need no quoting. -/
theorem assigned?_eq_some_iff {word name value : String} :
    assigned? word = some (name, value) ↔
      word = name ++ "=" ++ value ∧ isName name = true ∧ ∀ c ∈ value.toList, isSafe c = true := by
  constructor
  · intro h
    obtain ⟨front, rest, hquoted, rfl, rfl, hname⟩ := eq_of_assignment? h
    -- The equals sign is bare, so nothing of the word was quoted.
    have hmem : (⟨'=', true⟩ : Written) ∈ quoted word.toList := by
      rw [hquoted]
      simp
    obtain ⟨_, -, hbare⟩ := List.mem_map.mp hmem
    have hsafe : word.toList.all isSafe = true := (Written.mk.inj hbare).2
    have hword : word = textOf front ++ "=" ++ textOf rest := by
      have htext := congrArg textOf hquoted
      rw [textOf_quoted, textOf_append] at htext
      rw [htext, String.append_assoc]
      congr 1
      simp [textOf, String.ofList_cons]
    refine ⟨hword, hname, fun c hc => List.all_eq_true.mp hsafe c ?_⟩
    rw [hword]
    simp [hc]
  · rintro ⟨rfl, hname, hvalue⟩
    have hsafe : (name ++ "=" ++ value).toList.all isSafe = true := by
      refine List.all_eq_true.mpr fun c hc => ?_
      simp only [String.toList_append, List.mem_append] at hc
      rcases hc with (hc | hc) | hc
      · exact isSafe_of_isName hname c hc
      · rw [List.mem_singleton.mp hc]
        decide
      · exact hvalue c hc
    have hquoted : quoted (name ++ "=" ++ value).toList =
        (name.toList ++ ['=']).map (⟨·, true⟩) ++ value.toList.map (⟨·, true⟩) := by
      rw [quoted, hsafe]
      simp
    rw [assigned?, hquoted, assignment?_of_isName hname, textOf_map, String.ofList_toList]

/-- Words begin with no assignment just if the first one is not a name, an equals sign and a
value that needs no quoting. -/
theorem dropWhile_isAssigned_eq_self_iff (words : List String) :
    words.dropWhile isAssigned = words ↔
      ¬ ∃ name value rest, words = (name ++ "=" ++ value) :: rest ∧ isName name = true ∧
        ∀ c ∈ value.toList, isSafe c = true := by
  constructor
  · rintro hdrop ⟨name, value, rest, rfl, hassigned⟩
    have ha : assigned? (name ++ "=" ++ value) = some (name, value) :=
      assigned?_eq_some_iff.mpr ⟨rfl, hassigned⟩
    rw [List.dropWhile_cons_of_pos (by rw [isAssigned, ha]; rfl)] at hdrop
    have hlength := congrArg List.length hdrop
    have hle := (List.dropWhile_sublist isAssigned (l := rest)).length_le
    rw [List.length_cons] at hlength
    omega
  · intro h
    cases words with
    | nil => rfl
    | cons word rest =>
      refine List.dropWhile_cons_of_neg fun hword => ?_
      obtain ⟨⟨name, value⟩, ha⟩ := Option.isSome_iff_exists.mp hword
      obtain ⟨rfl, hassigned⟩ := assigned?_eq_some_iff.mp ha
      exact h ⟨name, value, rest, rfl, hassigned⟩

namespace SimpleCommand

/-- The words that were written are assignments up to the first one that is none. -/
theorem ofWords_quoted (ws : List String) :
    ofWords (ws.map fun s => quoted s.toList) =
      ⟨(ws.takeWhile isAssigned).filterMap assigned?, ws.dropWhile isAssigned⟩ := by
  induction ws with
  | nil => rfl
  | cons word ws ih =>
    rw [List.map_cons, ofWords]
    cases ha : assignment? (quoted word.toList) with
    | some a =>
      have hword : isAssigned word = true := by rw [isAssigned, assigned?, ha]; rfl
      have ha : assigned? word = some a := ha
      dsimp only
      rw [ih, List.takeWhile_cons_of_pos hword, List.dropWhile_cons_of_pos hword,
        List.filterMap_cons_some ha]
    | none =>
      have hword : ¬ isAssigned word = true := by rw [isAssigned, assigned?, ha]; exact nofun
      rw [List.takeWhile_cons_of_neg hword, List.dropWhile_cons_of_neg hword]
      simp [Function.comp_def, textOf_quoted]

/-- What a shell makes of a line that begins with an assignment to a name and goes on with
words that were written. -/
theorem read_assign {name : String} (hn : isName name = true) (value : String)
    (ws : List String) :
    read (name ++ "=" ++ quote value ++ " " ++ join ws) =
      .ok ⟨(name, value) :: (ws.takeWhile isAssigned).filterMap assigned?,
        ws.dropWhile isAssigned⟩ := by
  rw [read, readWords_assign hn]
  show Except.ok (ofWords (_ :: _)) = _
  rw [ofWords, assignment?_of_isName hn, ofWords_quoted, textOf_quoted]

end SimpleCommand

end Text.Shell

namespace Dispatch

open Text.Shell (isName isSafe isAssigned assigned? dropWhile_isAssigned_eq_self_iff SimpleCommand)

variable {settings : Settings} {launcher script : List String}
  (hl : wordsOf settings.launcher = .ok launcher)
  (hs : wordsOf settings.serviceScript = .ok script)

include hl hs in
/-- Where the launcher and the service script can be read as words and the variable is a name,
a call is made in the same words everywhere. On this machine they are run with the variable
set. On another host a shell takes those at the head of the words that are assignments for
more variables, so it runs the same words with the same variable set unless the first word
is an assignment. -/
theorem commandLine_runs_words_iff (hn : isName settings.instanceVariable = true)
    (target : Instance) (command : Command) :
    let words := launcher ++ script ++ [target.role.name, command.name]
    let binding := (settings.instanceVariable, target.exported)
    serviceWords settings target command = .ok words ∧
    ∃ line, commandLine settings target command = .ok line ∧
      (∀ (σ : Type) (c : Collaborators σ),
        control settings c true target command =
          c.runLocal words [binding] settings.commandTimeout ∧
        control settings c false target command = c.runRemote target.host line) ∧
      SimpleCommand.read line =
        .ok ⟨binding :: (words.takeWhile isAssigned).filterMap assigned?,
          words.dropWhile isAssigned⟩ ∧
      (SimpleCommand.read line = .ok ⟨[binding], words⟩ ↔
        ¬ ∃ name value rest, words = (name ++ "=" ++ value) :: rest ∧ isName name = true ∧
          ∀ c ∈ value.toList, isSafe c = true) := by
  intro words binding
  have hwords : serviceWords settings target command = .ok words := serviceWords_eq hl hs _ _
  have hline : commandLine settings target command =
      .ok (settings.instanceVariable ++ "=" ++ Text.Shell.quote target.exported ++ " " ++
        Text.Shell.join words) := by
    rw [commandLine, hwords]
    rfl
  have hread := SimpleCommand.read_assign hn target.exported words
  refine ⟨hwords, _, hline, fun σ c => ⟨?_, ?_⟩, hread, ?_⟩
  · rw [control, hwords]
    rfl
  · rw [control, hline]
    rfl
  rw [hread, ← dropWhile_isAssigned_eq_self_iff]
  constructor
  · exact fun h => (SimpleCommand.mk.inj (Except.ok.inj h)).2
  · intro hdrop
    -- If no word is left out, none is an assignment for more variables.
    have htake : words.takeWhile isAssigned = [] := by
      have hsplit : words.takeWhile isAssigned ++ words.dropWhile isAssigned = words :=
        List.takeWhile_append_dropWhile
      rw [hdrop] at hsplit
      exact List.append_left_eq_self.mp hsplit
    rw [hdrop, htake]
    rfl

/-- An assignment that is not at the head of the launcher is an argument everywhere. -/
theorem commandLine_runs_words_sudo :
    let settings : Settings := { Settings.twoWorkers with launcher := "sudo LANG=C" }
    let target : Instance := ⟨.worker, "h", 2, true⟩
    let words := ["sudo", "LANG=C", "svc", "tserver", "stop"]
    ∃ line, commandLine settings target .stop = .ok line ∧
      SimpleCommand.read line = .ok ⟨[("NR", "2")], words⟩ := by
  intro settings target words
  have hl : wordsOf settings.launcher = .ok ["sudo", "LANG=C"] := by
    show wordsOf "sudo LANG=C" = _
    rfl
  obtain ⟨-, line, hline, -, -, hread⟩ :=
    commandLine_runs_words_iff hl Settings.twoWorkers_script (by decide) target .stop
  refine ⟨line, hline, hread.mpr ?_⟩
  rintro ⟨name, value, rest, hfirst, -, -⟩
  have hequals : '=' ∈ "sudo".toList := by
    rw [(List.cons.inj hfirst).1]
    simp
  exact absurd hequals (by decide)

/-- With an assignment for a launcher, the program that is run on this machine is a variable
on another host, where the service script is the program. -/
theorem commandLine_runs_other_words :
    let target : Instance := ⟨.garbageCollector, "h1", 1, false⟩
    let line := "FC_SERVICE_INSTANCE=\x27\x27 LANG=C fleet-service gc start"
    ∃ settings, Settings.construct [("server_cmd_prefix", .text "LANG=C")] = .ok settings ∧
      serviceWords settings target .start = .ok ["LANG=C", "fleet-service", "gc", "start"] ∧
      commandLine settings target .start = .ok line ∧
      SimpleCommand.read line = .ok ⟨[("FC_SERVICE_INSTANCE", ""), ("LANG", "C")],
        ["fleet-service", "gc", "start"]⟩ :=
  ⟨_, rfl, rfl, rfl, rfl⟩

end Dispatch

end ServerFleet
