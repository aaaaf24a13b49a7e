import ServerFleet.Proofs.Locality

/-!
# One set of names per run

An identity is asked of hosts and for its names, in any order. Whatever becomes of the
machine meanwhile, no query fails, and all of them are answered by one set of names
(`Identity.interview_consistent`): the one that the identity is pinned to, or else the
one that it finds when it first has to look for it. The loopback names and the empty
name are answered before that, as they are after it.

A name is compared in its normal form, which neither ASCII case nor white space around
the name has a part in (`normalName_surrounded`, `normalName_congr`).
-/

namespace ServerFleet

/-! ## The normal form of names -/

/-- White space around a name makes no difference. -/
theorem normalName_surrounded {before after : String}
    (hb : ∀ c ∈ before.toList, Text.isBlank c = true)
    (ha : ∀ c ∈ after.toList, Text.isBlank c = true) (name : String) :
    normalName (before ++ name ++ after) = normalName name := by
  have htrim : Text.strip (before ++ name ++ after) = Text.strip name := by
    rw [Text.strip, String.toList_append, String.toList_append, Text.trim_surrounded hb ha,
      Text.strip]
  rw [normalName, htrim, normalName]

/-- Names that differ in the case of ASCII letters alone have one normal form. -/
theorem normalName_congr {name name' : String}
    (h : name.toList.map Char.toLower = name'.toList.map Char.toLower) :
    normalName name = normalName name' := by
  have hblank (c : Char) : Text.isBlank c.toLower = Text.isBlank c :=
    Text.rel_toLower (R := fun d c => Text.isBlank d = Text.isBlank c) (fun _ => rfl) (by decide) c
  have hlower (s : String) : normalName s =
      String.ofList (Text.lowerAfter [] (Text.trim (s.toList.map Char.toLower))) := by
    have hnone := Text.lowerAfter_map_toLower [] (Text.trim s.toList)
    rw [List.map_nil] at hnone
    rw [Text.trim_map hblank, hnone, normalName, Text.lowercase, Text.toList_strip]
  rw [hlower, hlower, h]

/-- The normal form of a name is empty if the name is blank. -/
theorem normalName_eq_empty_iff (name : String) :
    normalName name = "" ↔ Text.strip name = "" := by
  have hnil (cs : List Char) : String.ofList cs = "" ↔ cs = [] := by
    rw [← String.toList_inj, String.toList_ofList, String.toList_empty]
  rw [normalName, Text.lowercase, hnil, Text.lowerAfter_eq_nil_iff, ← String.toList_inj,
    String.toList_empty]

namespace Identity

/-- The names of a pinned identity are the loopback names and the normal forms of the
names given, without those that are missing or blank. -/
theorem mem_pinned {names : List (Option String)} {known : List String}
    (h : (pinned names).names? = some known) (n : String) :
    n ∈ known ↔ n ∈ loopbackNames ∨
      ∃ name, some name ∈ names ∧ Text.strip name ≠ "" ∧ normalName name = n := by
  have hloopback : "" ∉ loopbackNames := by decide
  rw [← Option.some.inj h, mem_foldl_addName, mem_normalNames]
  simp only [List.mem_filterMap, id, exists_eq_right]
  constructor
  · rintro (⟨name, hname, rfl, hne⟩ | ⟨hn, -⟩)
    · exact .inr ⟨name, hname, mt (normalName_eq_empty_iff name).mpr hne, rfl⟩
    · exact .inl hn
  · rintro (hn | ⟨name, hname, hne, rfl⟩)
    · exact .inr ⟨hn, fun h => hloopback (h ▸ hn)⟩
    · exact .inl ⟨name, hname, rfl, mt (normalName_eq_empty_iff name).mp hne⟩

/-- The identity that is pinned to some names, or finds its own if none are given. -/
def of : Option (List (Option String)) → Identity
  | some names => pinned names
  | none => {}

theorem sound_of (given : Option (List (Option String))) : (of given).Sound := by
  intro known h
  cases given with
  | none => cases h
  | some names => exact fun n hn => (mem_pinned h n).mpr (.inl hn)

/-! ## Queries -/

/-- What an identity is asked. -/
inductive Query where
  | isLocal (host : Option String)
  | names

/-- What an identity answers. -/
inductive Answer where
  | isLocal (yes : Bool)
  | names (known : List String)
  deriving DecidableEq

/-- The answer to a query by a set of names. -/
def Query.answer (known : List String) : Query → Answer
  | isLocal host =>
    let name := normalName (host.getD "")
    .isLocal (name != "" && known.contains name)
  | names => .names known

variable {σ : Type} (w : World σ)

/-- Puts a query to an identity. -/
def Query.ask : Query → Act (Vantage σ) Answer
  | isLocal host => .isLocal <$> Identity.isLocal w host
  | names => .names <$> Identity.names w

/-- The results of some queries in turn. Each of them finds the world in a state of its
own. -/
def interview (i : Identity) : List (σ × Query) → List (Except Failure Answer)
  | [] => []
  | (world, q) :: rest =>
    let r := (q.ask w).run ⟨world, i⟩
    r.result :: interview r.state.identity rest

/-- `known` is the set of names by which the identity answers, or may come to answer. -/
def AnswersBy (i : Identity) (known : List String) : Prop :=
  loopbackNames ⊆ known ∧ ∀ found, i.names? = some found → found = known

theorem Sound.exists_answersBy {i : Identity} (h : i.Sound) : ∃ known, i.AnswersBy known := by
  rcases hi : i.names? with _ | known
  · exact ⟨loopbackNames, List.Subset.refl _, fun found hf => by rw [hi] at hf; cases hf⟩
  · exact ⟨known, h known hi, fun found hf => Option.some.inj (hf.symm.trans hi)⟩

/-- The names by which an identity answers later are those by which it answers. -/
theorem AnswersBy.of_grows {i j : Identity} {known : List String} (h : j.AnswersBy known)
    (hg : i.Grows j) : i.AnswersBy known := by
  rcases hg with hn | rfl
  · exact ⟨h.1, fun found hf => by rw [hn] at hf; cases hf⟩
  · exact h

theorem AnswersBy.knows_eq {i : Identity} {known : List String} (h : i.AnswersBy known)
    {host : String} (hs : i.Settles host) :
    i.knows host = (normalName host != "" && known.contains (normalName host)) := by
  rcases hs with hempty | hloopback | hsome
  · simp [knows, hempty]
  · have hknown : normalName host ∈ known := h.1 hloopback
    simp [knows, hloopback, hknown]
  · obtain ⟨found, hfound⟩ := Option.isSome_iff_exists.mp hsome
    obtain rfl := h.2 found hfound
    have hsub : normalName host ∈ loopbackNames → normalName host ∈ found := fun hl => h.1 hl
    simp only [knows, hfound, Option.getD_some]
    by_cases hl : normalName host ∈ loopbackNames
    · simp [hl, hsub hl]
    · simp [hl]

/-- A query does not fail, and every set of names by which the identity answers after it
gives the answer. -/
theorem Query.ask_run (q : Query) (v : Vantage σ) : ∃ a v' es, (q.ask w).run v = ⟨.ok a, v', es⟩ ∧
    v.identity.Grows v'.identity ∧ (v.identity.Sound → v'.identity.Sound) ∧
    ∀ known, v'.identity.AnswersBy known → a = q.answer known := by
  cases q with
  | isLocal host =>
    -- No host is asked of as the empty one is.
    have hhost : Identity.isLocal w host = Identity.isLocal w (some (host.getD "")) := rfl
    obtain ⟨v', es, hrun, hg, hsettles, hsound⟩ := isLocal_run w (host.getD "") v
    refine ⟨.isLocal (v'.identity.knows (host.getD "")), v', es, ?_, hg, hsound, fun known h => ?_⟩
    · rw [Query.ask, Act.run_map, hhost, hrun]
      rfl
    · rw [h.knows_eq hsettles, Query.answer]
  | names =>
    obtain ⟨found, v', es, hrun, hnames, hg, hfound⟩ := names_run w v
    refine ⟨.names found, v', es, ?_, hg, fun h known hknown => ?_, fun known h => ?_⟩
    · rw [Query.ask, Act.run_map, hrun]
      rfl
    · rw [← Option.some.inj (hnames.symm.trans hknown)]
      exact hfound h
    · rw [h.2 found hnames, Query.answer]

/-- Queries are answered by one set of names, which the identity answers by from the
start. -/
theorem Sound.interview_eq {i : Identity} (h : i.Sound) (asked : List (σ × Query)) :
    ∃ known, i.AnswersBy known ∧
      interview w i asked = asked.map fun a => .ok (a.2.answer known) := by
  induction asked generalizing i with
  | nil =>
    obtain ⟨known, hknown⟩ := h.exists_answersBy
    exact ⟨known, hknown, rfl⟩
  | cons a asked ih =>
    obtain ⟨world, q⟩ := a
    obtain ⟨answer, v', es, hrun, hg, hsound, hanswer⟩ := q.ask_run w ⟨world, i⟩
    obtain ⟨known, hknown, hrest⟩ := ih (hsound h)
    refine ⟨known, hknown.of_grows hg, ?_⟩
    simp only [interview, hrun, hrest, hanswer known hknown, List.map_cons]

/-- An identity answers all that it is asked by one set of names, whatever the machine is
by then and however it fails. The set has the loopback names in it, and for a pinned
identity nothing else but the names that were given. White space around a host and the
case of its ASCII letters have no part in the answer. -/
theorem interview_consistent (given : Option (List (Option String))) (asked : List (σ × Query)) :
    ∃ known : List String,
      interview w (of given) asked = asked.map (fun a => .ok (a.2.answer known)) ∧
      "localhost" ∈ known ∧ "127.0.0.1" ∈ known ∧
      (∀ names, given = some names → ∀ n, n ∈ known ↔ n ∈ ["localhost", "127.0.0.1"] ∨
        ∃ name, some name ∈ names ∧ Text.strip name ≠ "" ∧ normalName name = n) ∧
      (∀ before host after : String, (∀ c ∈ before.toList, Text.isBlank c = true) →
        (∀ c ∈ after.toList, Text.isBlank c = true) →
        (Query.isLocal (some (before ++ host ++ after))).answer known =
          (Query.isLocal (some host)).answer known) ∧
      ∀ host host' : String, host.toList.map Char.toLower = host'.toList.map Char.toLower →
        (Query.isLocal (some host)).answer known = (Query.isLocal (some host')).answer known := by
  obtain ⟨known, hknown, hasked⟩ := (sound_of given).interview_eq w asked
  have hloopback (n : String) (hn : n ∈ loopbackNames) : n ∈ known := hknown.1 hn
  refine ⟨known, hasked, hloopback _ (by decide), hloopback _ (by decide), ?_, ?_, ?_⟩
  · rintro names rfl n
    have hpinned : (pinned names).names? = some known := by
      obtain ⟨found, hfound⟩ : ∃ found, (pinned names).names? = some found := ⟨_, rfl⟩
      exact hfound.trans (congrArg some (hknown.2 found hfound))
    exact mem_pinned hpinned n
  · intro before host after hb ha
    simp only [Query.answer, Option.getD_some, normalName_surrounded hb ha]
  · intro host host' h
    simp only [Query.answer, Option.getD_some, normalName_congr h]

end Identity

/-- A machine that goes by whatever name the world has for it, and has no address. -/
def World.renamed : World String where
  control _ s := .finish (.ok ()) s
  process _ _ _ s := (.timedOut, s)
  connect _ _ s := (.error .unknownHome, s)
  runOver _ _ _ s := (.timedOut, s)
  machine s := (⟨.ok s, .ok s, fun _ => .ok "", .ok [], .ok []⟩, s)
  callback _ _ _ s := .finish (.ok ()) s
  buildContext s := (⟨"", .error .unknownHome⟩, s)
  closeContext _ s := (.error .unknownHome, s)
  homeOf _ := none

-- The name that the machine had before it was first looked for is as little known as the one
-- that it has later.
example :
    (Identity.interview World.renamed (.of none)
      [("a", .isLocal (some "LocalHost")), ("b.c", .isLocal (some " B.C")),
        ("a", .isLocal (some "a")), ("d", .names)]).map Except.toOption =
      [some (.isLocal true), some (.isLocal true), some (.isLocal false),
        some (.names ["localhost", "127.0.0.1", "b.c", "b"])] := by
  decide +kernel

end ServerFleet
