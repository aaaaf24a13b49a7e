import ServerFleet.Failure

/-!
# Normalized contexts

A report is made with details of any kind, and its context is what is kept of them. The
context has the shape of the details: at every place of it (`Detail.at?`) there is the value
that the detail there is already, or the text that it is shown by, or a list as long as the
collection there, or a mapping with the same keys (`Detail.Becomes`).

The keys of the mappings in it are kept whatever they are. So the context is made of texts,
numbers, truth values, lists and mappings from texts, as JSON is, just if all the mappings
among the details are from texts (`ErrorReport.Keeps.plain`).

* `Detail.normalize_eq_self_iff`: a detail is left as it is just if every part of it is;
* `ErrorReport.context_normalized`: a context that is normalized again stays the same, and an
  error that is reported with the context of the one behind it keeps all its entries;
* `ErrorReport.context_not_plain`: a context that is not JSON.
-/

namespace ServerFleet

namespace Detail

/-! ## Places -/

/-- A part of a detail: an item of a collection, or what is in an entry of a mapping. -/
def part? : Detail → Nat → Option Detail
  | collection _ items, i => items[i]?
  | mapping entries, i => entries[i]?.map (·.2)
  | _, _ => none

/-- The detail at a place in a detail. -/
def at? (d : Detail) : List Nat → Option Detail
  | [] => some d
  | i :: place => (d.part? i).bind (·.at? place)

/-- Whether all that is in a detail, and the detail itself, is as said. -/
def Everywhere (P : Detail → Prop) (d : Detail) : Prop :=
  ∀ place part, d.at? place = some part → P part

theorem sizeOf_part {d part : Detail} {i : Nat} (h : d.part? i = some part) :
    sizeOf part < sizeOf d := by
  cases d with
  | collection kind items =>
    have := List.sizeOf_lt_of_mem (List.mem_of_getElem? h)
    simp only [collection.sizeOf_spec]
    omega
  | mapping entries =>
    obtain ⟨e, he, rfl⟩ := Option.map_eq_some_iff.mp h
    have hentry := List.sizeOf_lt_of_mem (List.mem_of_getElem? he)
    have hvalue : sizeOf e.2 < sizeOf e := by
      cases e
      simp only [Prod.mk.sizeOf_spec]
      omega
    simp only [mapping.sizeOf_spec]
    omega
  | _ => cases h

/-- What holds of a detail if it holds of its parts holds of every detail. -/
theorem of_parts {P : Detail → Prop}
    (step : ∀ d, (∀ i part, d.part? i = some part → P part) → P d) (d : Detail) : P d :=
  step d fun _ part _ => of_parts step part
termination_by sizeOf d
decreasing_by exact sizeOf_part ‹_›

theorem Everywhere.part {P : Detail → Prop} {d part : Detail} (h : d.Everywhere P) {i : Nat}
    (hpart : d.part? i = some part) : part.Everywhere P :=
  fun place x hx => h (i :: place) x (by rw [at?, hpart]; exact hx)

theorem Everywhere.here {P : Detail → Prop} {d : Detail} (h : d.Everywhere P) : P d := h [] d rfl

/-! ## What becomes of a detail -/

/-- Whether a detail is a text, a number or a truth value, or stands for the absence of one. -/
def IsValue : Detail → Prop
  | null | bool _ | int _ | float _ | text _ | role _ => True
  | _ => False

/-- The text that shows a detail which is neither a value nor holds others. -/
def shown? : Detail → Option String
  | path p => some p.text
  | failure message => some message
  | other shown => some shown
  | _ => none

/-- What a detail becomes in a context. -/
inductive Becomes : Detail → Detail → Prop
  | value {d : Detail} (value : d.IsValue) : Becomes d d
  | shown {d : Detail} {s : String} (shown : d.shown? = some s) : Becomes d (.text s)
  | list {kind : CollectionKind} {items kept : List Detail} (length : kept.length = items.length) :
      Becomes (.collection kind items) (.collection .list kept)
  | mapping {entries kept : List (Detail × Detail)}
      (keys : kept.map (·.1) = entries.map (·.1)) : Becomes (.mapping entries) (.mapping kept)

theorem becomes_normalize (d : Detail) : d.Becomes d.normalize := by
  cases d with
  | collection kind items =>
    rw [normalize]
    exact .list (by rw [normalizeAll_eq_map, List.length_map])
  | mapping entries =>
    rw [normalize, normalizeValues_eq_map]
    exact .mapping (by rw [List.map_map]; rfl)
  | path | failure | other => rw [normalize]; exact .shown rfl
  | _ => rw [normalize]; exact .value trivial

theorem part?_normalize (d : Detail) (i : Nat) :
    d.normalize.part? i = (d.part? i).map normalize := by
  cases d with
  | collection kind items =>
    rw [normalize, normalizeAll_eq_map]
    exact List.getElem?_map
  | mapping entries =>
    rw [normalize, normalizeValues_eq_map]
    simp only [part?, List.getElem?_map, Option.map_map]
    rfl
  | _ => rw [normalize]; rfl

/-- At every place is what the detail there becomes. -/
theorem at?_normalize (d : Detail) (place : List Nat) :
    d.normalize.at? place = (d.at? place).map normalize := by
  induction place generalizing d with
  | nil => rfl
  | cons i place ih =>
    rw [at?, at?, part?_normalize]
    cases d.part? i with
    | none => rfl
    | some part => exact ih part

/-- What holds of all that is kept. -/
theorem everywhere_normalize {P Q : Detail → Prop} (h : ∀ part, P part.normalize ↔ Q part)
    (d : Detail) : d.normalize.Everywhere P ↔ d.Everywhere Q := by
  constructor
  · intro hP place part hpart
    refine (h part).mp (hP place _ ?_)
    rw [at?_normalize, hpart]
    rfl
  · intro hQ place kept hkept
    rw [at?_normalize] at hkept
    obtain ⟨part, hpart, rfl⟩ := Option.map_eq_some_iff.mp hkept
    exact (h part).mpr (hQ place part hpart)

/-! ## Details that are kept as they are -/

/-- Whether a detail is kept as it is, whatever becomes of its parts. -/
def Kept : Detail → Prop
  | path _ | failure _ | other _ => False
  | collection kind _ => kind = .list
  | _ => True

/-- Whether the keys of a mapping are texts. -/
def TextKeyed : Detail → Prop
  | mapping entries => ∀ e ∈ entries, e.1.text?.isSome
  | _ => True

/-- Whether a detail is a text, a number, a truth value or the absence of one, a list, or a
mapping from texts. -/
structure Plain (d : Detail) : Prop where
  kept : d.Kept
  textKeyed : d.TextKeyed

/-- Whether a detail is not a number that JSON has no spelling of its own for. -/
def Finite : Detail → Prop
  | float x => x.isFinite
  | _ => True

theorem kept_normalize (d : Detail) : d.normalize.Kept := by
  cases d <;> rw [normalize] <;> trivial

theorem textKeyed_normalize (d : Detail) : d.normalize.TextKeyed ↔ d.TextKeyed := by
  cases d with
  | mapping entries =>
    rw [normalize, normalizeValues_eq_map]
    exact List.forall_mem_map
  | path | failure | other | collection => rw [normalize]; rfl
  | _ => rw [normalize]

theorem plain_normalize (d : Detail) : d.normalize.Plain ↔ d.TextKeyed :=
  ⟨fun h => (textKeyed_normalize d).mp h.textKeyed,
    fun h => ⟨kept_normalize d, (textKeyed_normalize d).mpr h⟩⟩

theorem finite_normalize (d : Detail) : d.normalize.Finite ↔ d.Finite := by
  cases d with
  | path | failure | other | collection | mapping => rw [normalize]; rfl
  | _ => rw [normalize]

theorem normalize_eq_self {d : Detail} (h : d.Everywhere Kept) : d.normalize = d := by
  induction d using of_parts with
  | step d ih =>
    have ih {i : Nat} {part : Detail} (hpart : d.part? i = some part) : part.normalize = part :=
      ih i part hpart (h.part hpart)
    have hhere : d.Kept := h.here
    cases d with
    | collection kind items =>
      obtain rfl : kind = .list := hhere
      have hitems : items.map normalize = items := by
        refine (List.map_congr_left fun item hitem => ?_).trans (List.map_id items)
        obtain ⟨i, hi⟩ := List.getElem?_of_mem hitem
        exact ih hi
      rw [normalize, normalizeAll_eq_map, hitems]
    | mapping entries =>
      have hentries : (entries.map fun e => (e.1, e.2.normalize)) = entries := by
        refine (List.map_congr_left fun e he => ?_).trans (List.map_id entries)
        obtain ⟨i, hi⟩ := List.getElem?_of_mem he
        have hpart : (mapping entries).part? i = some e.2 := by rw [part?, hi]; rfl
        exact congrArg (e.1, ·) (ih hpart)
      rw [normalize, normalizeValues_eq_map, hentries]
    | path | failure | other => exact hhere.elim
    | _ => rw [normalize]

theorem everywhere_kept_normalize (d : Detail) : d.normalize.Everywhere Kept :=
  (everywhere_normalize (Q := fun _ => True) (fun part => iff_true_intro part.kept_normalize) d).mpr
    fun _ _ _ => trivial

/-- A detail is left alone just if all of it is kept as it is. -/
theorem normalize_eq_self_iff (d : Detail) : d.normalize = d ↔ d.Everywhere Kept :=
  ⟨fun h => h ▸ d.everywhere_kept_normalize, normalize_eq_self⟩

theorem normalize_normalize (d : Detail) : d.normalize.normalize = d.normalize :=
  d.normalize.normalize_eq_self_iff.mpr d.everywhere_kept_normalize

theorem normalizeEntries_normalizeEntries (ds : Entries Detail) :
    normalizeEntries (normalizeEntries ds) = normalizeEntries ds := by
  simp only [normalizeEntries, List.map_map]
  exact List.map_congr_left fun e _ => congrArg (e.1, ·) e.2.normalize_normalize

/-! ## Contexts that are passed on -/

theorem keys_normalizeEntries (ds : Entries Detail) :
    (normalizeEntries ds).map (·.1) = ds.map (·.1) := by
  rw [normalizeEntries, List.map_map]
  rfl

theorem normalizeEntries_set (ds : Entries Detail) (key : String) (d : Detail) :
    normalizeEntries (ds.set key d) = (normalizeEntries ds).set key d.normalize := by
  induction ds with
  | nil => rfl
  | cons e ds ih =>
    obtain ⟨k, d'⟩ := e
    show normalizeEntries (if k = key then (k, d) :: ds else (k, d') :: Entries.set key d ds) = _
    show _ = if k = key then (k, d.normalize) :: normalizeEntries ds
      else (k, d'.normalize) :: Entries.set key d.normalize (normalizeEntries ds)
    split
    · rfl
    · rw [← ih]
      rfl

theorem normalizeEntries_update (own ds : Entries Detail) :
    normalizeEntries (own.update ds) = (normalizeEntries own).update (normalizeEntries ds) := by
  induction ds generalizing own with
  | nil => rfl
  | cons e ds ih => exact (ih _).trans (by rw [normalizeEntries_set]; rfl)

end Detail

/-- The report of a further error, made with details of its own and with the context of a report,
whose entries take the places of those under the same keys. -/
def ErrorReport.rewrap (r : ErrorReport) (kind : ReportKind) (message : String)
    (own : Entries Detail) (cause : Option Kind) : ErrorReport :=
  .of kind message (own.update r.context) cause

/-- The failures that are reported with the context of the one behind them, and with details of
their own: those of an administrative request and of a purge. -/
inductive Failure.Wraps : Failure → Failure → Entries Detail → Prop
  | administrative (words argv : List String) (cause : Failure) :
      Wraps (.administrative words argv cause) cause
        [("argv", .collection .list (argv.map .text))]
  | cleanup (roles : List Role) (cause : Failure) :
      Wraps (.cleanup roles cause) cause
        [("roles", .collection .list ((sortedNames roles).map .text))]

namespace ErrorReport

open Detail (Everywhere Becomes Kept TextKeyed Plain Finite)

/-- The context of a report that was made with some details. -/
structure Keeps (ds : Entries Detail) (r : ErrorReport) : Prop where
  shape : ∀ place,
    Option.Rel Becomes ((Detail.map ds).at? place) ((Detail.map r.context).at? place)
  kept : (Detail.map r.context).Everywhere Kept
  plain : (Detail.map r.context).Everywhere Plain ↔ (Detail.map ds).Everywhere TextKeyed
  finite : (Detail.map r.context).Everywhere Finite ↔ (Detail.map ds).Everywhere Finite
  unchanged : ∀ place d, (Detail.map ds).at? place = some d → d.Everywhere Kept →
    (Detail.map r.context).at? place = some d
  again : ∀ kind message cause, (ErrorReport.of kind message r.context cause).context = r.context
  inherited : ∀ kind message own cause key, r.context.get? key ≠ none →
    (r.rewrap kind message own cause).context.get? key = r.context.get? key
  wrapped : ∀ f cause own, Failure.Wraps f cause own → cause.report? = some r →
    ∃ kind, f.kind = .reported kind ∧
      f.report? = some (r.rewrap kind f.message own (some cause.kind))
  recorded : r.record.get? "context" = some (.map r.context)
  handedOn : r.payload.get? "error_context" = some (.map r.context)

theorem context_of (kind : ReportKind) (message : String) (ds : Entries Detail)
    (cause : Option Kind) : (ErrorReport.of kind message ds cause).context =
      Detail.normalizeEntries ds := rfl

theorem context_rewrap (r : ErrorReport) (kind : ReportKind) (message : String)
    (own : Entries Detail) (cause : Option Kind) :
    (r.rewrap kind message own cause).context =
      (Detail.normalizeEntries own).update (Detail.normalizeEntries r.context) :=
  Detail.normalizeEntries_update own r.context

/-- What a context that is normalized has for a key, a report that takes it over has too. -/
theorem get?_rewrap {r : ErrorReport} (hkeys : (r.context.map (·.1)).Nodup)
    (hnormal : Detail.normalizeEntries r.context = r.context) (kind : ReportKind)
    (message : String) (own : Entries Detail) (cause : Option Kind) {key : String}
    (h : r.context.get? key ≠ none) :
    (r.rewrap kind message own cause).context.get? key = r.context.get? key := by
  rw [context_rewrap, hnormal, Entries.get?_update, Entries.get?_reverse hkeys]
  obtain ⟨value, hvalue⟩ := Option.ne_none_iff_exists'.mp h
  rw [hvalue]
  rfl

/-- The failure of an administrative request or of a purge is reported with the context of the
failure behind it. -/
theorem report?_of_wraps {f cause : Failure} {own : Entries Detail} {r : ErrorReport}
    (h : Failure.Wraps f cause own) (hr : cause.report? = some r) :
    ∃ kind, f.kind = .reported kind ∧
      f.report? = some (r.rewrap kind f.message own (some cause.kind)) := by
  have hcontext : r.context = Detail.normalizeEntries cause.context := by
    unfold Failure.report? at hr
    split at hr
    · rw [← Option.some.inj hr, context_of]
    · cases hr
  have hreport {kind : ReportKind} (hkind : f.kind = .reported kind)
      (hcause : f.causeKind? = some cause.kind) (hupdate : f.context = own.update cause.context) :
      f.report? = some (r.rewrap kind f.message own (some cause.kind)) := by
    unfold Failure.report? rewrap ErrorReport.of
    rw [hkind]
    dsimp only
    rw [hcause, hupdate, hcontext, Detail.normalizeEntries_update, Detail.normalizeEntries_update,
      Detail.normalizeEntries_normalizeEntries]
  cases h with
  | administrative words argv => exact ⟨_, rfl, hreport rfl rfl rfl⟩
  | cleanup roles => exact ⟨_, rfl, hreport rfl rfl rfl⟩

/-- The context of a report has the shape of the details that it was made with, and holds
nothing but texts, numbers, truth values, lists and mappings. The mappings are from texts just
if those among the details are. The context stays as it is if it is normalized again, keeps its
entries in the report of an error that takes it over, and is the same in both forms in which
the report is handed on. -/
theorem context_normalized (kind : ReportKind) (message : String) {ds : Entries Detail}
    (hkeys : (ds.map (·.1)).Nodup) (cause : Option Kind) :
    (ErrorReport.of kind message ds cause).Keeps ds := by
  have hmap : Detail.map (ErrorReport.of kind message ds cause).context =
      (Detail.map ds).normalize := by
    rw [Detail.normalize_map, context_of]
  have hnormal := Detail.normalizeEntries_normalizeEntries ds
  refine ⟨fun place => ?_, ?_, ?_, ?_, fun place d hd hkept => ?_, fun _ _ _ => hnormal,
    fun _ _ _ _ key h => ?_, fun _ _ _ => report?_of_wraps, rfl, rfl⟩
  · rw [hmap, Detail.at?_normalize]
    cases (Detail.map ds).at? place with
    | none => exact .none
    | some d => exact .some d.becomes_normalize
  · rw [hmap]
    exact Detail.everywhere_kept_normalize _
  · rw [hmap]
    exact Detail.everywhere_normalize Detail.plain_normalize _
  · rw [hmap]
    exact Detail.everywhere_normalize Detail.finite_normalize _
  · rw [hmap, Detail.at?_normalize, hd, Option.map_some,
      (Detail.normalize_eq_self_iff d).mpr hkept]
  · have hcontext : ((ErrorReport.of kind message ds cause).context.map (·.1)).Nodup := by
      rwa [context_of, Detail.keys_normalizeEntries]
    exact get?_rewrap hcontext hnormal _ _ _ _ h

/-- Details of several kinds, one within another, with a path as a key among them. -/
def mixedDetails : Entries Detail :=
  [("count", .int 3),
    ("nested", .mapping [(.path ⟨1, ["conf"]⟩, .path ⟨1, ["conf", "tservers"]⟩)]),
    ("items", .collection .tuple [.role .worker, .bool true, .collection .set [.failure "lost"]])]

theorem context_normalized_mixed :
    let r := ErrorReport.of .configuration "boom" mixedDetails none
    (mixedDetails.map (·.1)).Nodup ∧ r.Keeps mixedDetails ∧
      (Detail.map r.context).at? [1] =
        some (.mapping [(.path ⟨1, ["conf"]⟩, .text "/conf/tservers")]) ∧
      (Detail.map r.context).at? [2] =
        some (.collection .list [.role .worker, .bool true, .collection .list [.text "lost"]]) :=
  have hkeys : (mixedDetails.map (·.1)).Nodup := by decide
  ⟨hkeys, context_normalized _ _ hkeys _, by rfl, by rfl⟩

/-- A mapping from a path, in the details of an error, is still one in the context. So the
context is not made of texts, numbers, truth values, lists and mappings from texts. -/
theorem context_not_plain :
    let r := ErrorReport.of .general "m" [("a", .mapping [(.path ⟨1, ["etc"]⟩, .int 1)])] none
    r.context = [("a", .mapping [(.path ⟨1, ["etc"]⟩, .int 1)])] ∧
      ¬ (Detail.map r.context).Everywhere Plain := by
  refine ⟨by rfl, fun h => ?_⟩
  have hinner : Plain (.mapping [(.path ⟨1, ["etc"]⟩, .int 1)]) := h [0] _ rfl
  exact Bool.false_ne_true (hinner.textKeyed _ List.mem_cons_self)

end ErrorReport

end ServerFleet
