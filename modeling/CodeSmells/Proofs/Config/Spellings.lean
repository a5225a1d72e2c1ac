import CodeSmells.Proofs.Config.RoundTrip
import CodeSmells.Proofs.Grouping
import Mathlib.Logic.Relation

/-!
# Spelling and place of thresholds

A threshold may be written in capitals or with underscores, in a table of its own or at the top
level. The reader recognizes it at the top level by its normalized key, puts it among the entries of
the table under the key as it is written, and normalizes the keys of all of them later on. `Edit`
lists what may be done to a document without touching anything else: another spelling for a key, a
threshold moved out of the table, an empty table left out, and all that undone.

A document is `Unambiguous` when it has at most one table of thresholds and names no threshold
twice, in whatever spellings. Its reading then splits in two (`ofDocument_eq_ok_iff`): what is no
threshold gives the detectors and the output settings, and the thresholds, under their normalized
names, give the overrides. An edit keeps the first as it is and permutes the second
(`Edit.sameContents`), and so does any number of edits (`sameContents_of_edits`). Under distinct
names the order decides neither whether thresholds pass (`exists_checkNamed_iff`) nor what is
overridden (`get?_of_checkNamed`), so the same settings come out but for the order of the overrides:
`ofDocument_of_edits`.

Where a threshold is named twice the order does decide, because the last one wins.
-/

set_option autoImplicit false
set_option relaxedAutoImplicit false

namespace CodeSmells.Config

open scoped List

/-! ### The thresholds of a document -/

/-- What stands under `thresholds`; nothing when the document has no such key. -/
def ownTables (doc : Entries) : List Value :=
  (doc.filter fun e ↦ e.1 == "thresholds").map (·.2)

/-- The entries of a table; other values have none. -/
def tableEntries : Value → Entries
  | .table es => es
  | _ => []

/-- The entries of a document that stand in its table of thresholds. -/
def inTable (doc : Entries) : Entries :=
  (ownTables doc).flatMap tableEntries

/-- The entries of a document at its top level that are thresholds. -/
def topThresholds (doc : Entries) : Entries :=
  doc.filter fun e ↦ isThresholdKey e.1

/-- What a document holds besides thresholds. -/
def restOf (doc : Entries) : Entries :=
  doc.filter fun e ↦ staysOnTop e.1

/-- Entries under the spelling that the program knows their keys by. -/
def normalized (es : Entries) : Entries :=
  es.map fun (k, v) ↦ (normalizeKey k, v)

/-- The thresholds of a document, those of its table before those at its top level. -/
def thresholdsOf (doc : Entries) : Entries :=
  normalized (inTable doc ++ topThresholds doc)

/-- Nothing or one table. -/
def NoneOrTable (values : List Value) : Prop :=
  values = [] ∨ ∃ es, values = [.table es]

/-- A document that has no more than one table of thresholds and no other value in its place, and
that names no threshold twice, be it in the same spelling or in another. -/
structure Unambiguous (doc : Entries) : Prop where
  table : NoneOrTable (ownTables doc)
  distinct : (thresholdsOf doc).keys.Nodup

section Parts

variable {key : String} {doc : Entries}

theorem isThresholdKey_thresholds : isThresholdKey "thresholds" = false := by
  rw [isThresholdKey_eq]
  decide +kernel

theorem ne_thresholds_of_isThresholdKey (h : isThresholdKey key = true) : key ≠ "thresholds" := by
  rintro rfl
  rw [isThresholdKey_thresholds] at h
  cases h

theorem normalized_append (es es' : Entries) :
    normalized (es ++ es') = normalized es ++ normalized es' :=
  List.map_append

theorem normalized_cons (key : String) (v : Value) (es : Entries) :
    normalized ((key, v) :: es) = (normalizeKey key, v) :: normalized es :=
  rfl

@[simp] theorem ownTables_append (doc doc' : Entries) :
    ownTables (doc ++ doc') = ownTables doc ++ ownTables doc' := by
  simp [ownTables]

@[simp] theorem ownTables_cons_table (v : Value) (doc : Entries) :
    ownTables (("thresholds", v) :: doc) = v :: ownTables doc :=
  rfl

@[simp] theorem ownTables_cons_known (h : isThresholdKey key = true) (v : Value) (doc : Entries) :
    ownTables ((key, v) :: doc) = ownTables doc := by
  simp [ownTables, ne_thresholds_of_isThresholdKey h]

theorem ownTables_eq_nil (h : "thresholds" ∉ doc.keys) : ownTables doc = [] := by
  refine List.map_eq_nil_iff.mpr (List.filter_eq_nil_iff.mpr fun e he hkey ↦ h ?_)
  rw [← beq_iff_eq.mp hkey]
  exact List.mem_map_of_mem he

@[simp] theorem topThresholds_append (doc doc' : Entries) :
    topThresholds (doc ++ doc') = topThresholds doc ++ topThresholds doc' :=
  List.filter_append _ _

@[simp] theorem topThresholds_cons_table (v : Value) (doc : Entries) :
    topThresholds (("thresholds", v) :: doc) = topThresholds doc :=
  List.filter_cons_of_neg (by simp [isThresholdKey_thresholds])

@[simp] theorem topThresholds_cons_known (h : isThresholdKey key = true) (v : Value)
    (doc : Entries) : topThresholds ((key, v) :: doc) = (key, v) :: topThresholds doc :=
  List.filter_cons_of_pos h

@[simp] theorem restOf_append (doc doc' : Entries) :
    restOf (doc ++ doc') = restOf doc ++ restOf doc' :=
  List.filter_append _ _

@[simp] theorem restOf_cons_table (v : Value) (doc : Entries) :
    restOf (("thresholds", v) :: doc) = restOf doc :=
  rfl

@[simp] theorem restOf_cons_known (h : isThresholdKey key = true) (v : Value) (doc : Entries) :
    restOf ((key, v) :: doc) = restOf doc :=
  List.filter_cons_of_neg (by simp [staysOnTop, h])

end Parts

/-! ### Edits -/

/-- An edit that concerns the spelling or the place of thresholds only. A threshold gets another
spelling, at the top level or in the table; it is moved from the table to any place at the top
level; or an empty table is left out. -/
inductive Edit : Entries → Entries → Prop
  | respell (before after : Entries) {key other : String} (v : Value)
      (hkey : isThresholdKey key = true) (hsame : normalizeKey other = normalizeKey key) :
      Edit (before ++ (key, v) :: after) (before ++ (other, v) :: after)
  | respellInTable (before after front back : Entries) {key other : String} (v : Value)
      (hsame : normalizeKey other = normalizeKey key) :
      Edit (before ++ ("thresholds", .table (front ++ (key, v) :: back)) :: after)
        (before ++ ("thresholds", .table (front ++ (other, v) :: back)) :: after)
  | moveOut (before after front back left right : Entries) {key : String} (v : Value)
      (hkey : isThresholdKey key = true)
      (hplace : before ++ ("thresholds", .table (front ++ back)) :: after = left ++ right) :
      Edit (before ++ ("thresholds", .table (front ++ (key, v) :: back)) :: after)
        (left ++ (key, v) :: right)
  | leaveOut (before after : Entries) (hother : "thresholds" ∉ (before ++ after).keys) :
      Edit (before ++ ("thresholds", .table []) :: after) (before ++ after)

/-- Two documents with the same thresholds in another order and otherwise the same. -/
structure SameContents (doc doc' : Entries) : Prop where
  rest : restOf doc' = restOf doc
  thresholds : (thresholdsOf doc').Perm (thresholdsOf doc)
  table : NoneOrTable (ownTables doc') ↔ NoneOrTable (ownTables doc)

theorem noneOrTable_iff {xs ys : List Value} {es : Entries} :
    NoneOrTable (xs ++ .table es :: ys) ↔ xs = [] ∧ ys = [] := by
  constructor
  · rintro (hnone | ⟨es', hone⟩)
    · simp at hnone
    · cases xs with
      | nil => exact ⟨rfl, (List.cons.inj hone).2⟩
      | cons x xs => simp at hone
  · rintro ⟨rfl, rfl⟩
    exact Or.inr ⟨es, rfl⟩

/-- Moving a member from one place to another one further on gives the same members. -/
theorem perm_of_moved {α : Type} (x : α) (as bs cs ds es fs : List α) :
    as ++ (bs ++ cs ++ ds) ++ (es ++ x :: fs) ~ as ++ (bs ++ x :: cs ++ ds) ++ (es ++ fs) := by
  calc as ++ (bs ++ cs ++ ds) ++ (es ++ x :: fs)
      = (as ++ bs ++ cs ++ ds ++ es) ++ x :: fs := by simp only [List.append_assoc]
    _ ~ x :: (as ++ bs ++ cs ++ ds ++ es ++ fs) := List.perm_middle
    _ = x :: (as ++ bs ++ (cs ++ ds ++ es ++ fs)) := by simp only [List.append_assoc]
    _ ~ (as ++ bs) ++ x :: (cs ++ ds ++ es ++ fs) := List.perm_middle.symm
    _ = as ++ (bs ++ x :: cs ++ ds) ++ (es ++ fs) := by
      simp only [List.append_assoc, List.cons_append]

/-- An edit leaves the contents of a document the same. -/
theorem Edit.sameContents {doc doc' : Entries} (h : Edit doc doc') : SameContents doc doc' := by
  cases h with
  | respell before after v hkey hsame =>
    next key other =>
    have hother : isThresholdKey other = true := by rwa [isThresholdKey, hsame]
    refine ⟨?_, List.Perm.of_eq ?_, ?_⟩
    · simp [hkey, hother]
    · simp [thresholdsOf, inTable, hkey, hother, normalized_append, normalized_cons, hsame]
    · simp [hkey, hother]
  | respellInTable before after front back v hsame =>
    refine ⟨?_, List.Perm.of_eq ?_, ?_⟩
    · simp
    · simp [thresholdsOf, inTable, tableEntries, normalized_append, normalized_cons, hsame]
    · rw [ownTables_append, ownTables_append, ownTables_cons_table, ownTables_cons_table,
        noneOrTable_iff, noneOrTable_iff]
  | moveOut before after front back left right v hkey hplace =>
    have hrest := congrArg restOf hplace
    have htables := congrArg ownTables hplace
    have htop := congrArg topThresholds hplace
    simp only [restOf_append, restOf_cons_table] at hrest
    simp only [ownTables_append, ownTables_cons_table] at htables
    simp only [topThresholds_append, topThresholds_cons_table] at htop
    refine ⟨?_, ?_, ?_⟩
    · simp [hkey, hrest]
    · refine List.Perm.map _ ?_
      simp only [inTable, ownTables_append, ownTables_cons_known hkey, ← htables,
        topThresholds_append, topThresholds_cons_known hkey, ownTables_cons_table,
        topThresholds_cons_table, htop, List.flatMap_append, List.flatMap_cons, tableEntries]
      exact perm_of_moved _ _ _ _ _ _ _
    · simp only [ownTables_append, ownTables_cons_table, ownTables_cons_known hkey, ← htables,
        noneOrTable_iff]
  | leaveOut before after hother =>
    refine ⟨?_, List.Perm.of_eq ?_, ?_⟩
    · simp
    · simp [thresholdsOf, inTable, tableEntries]
    · rw [Entries.keys, List.map_append, List.mem_append, not_or] at hother
      rw [ownTables_append, ownTables_append, ownTables_cons_table, noneOrTable_iff,
        ownTables_eq_nil hother.1, ownTables_eq_nil hother.2]
      exact iff_of_true (Or.inl rfl) ⟨rfl, rfl⟩

/-- Edits that are done or undone, one after the other, leave the contents of a document the
same. -/
theorem sameContents_of_edits {doc doc' : Entries} (h : Relation.EqvGen Edit doc doc') :
    SameContents doc doc' := by
  induction h with
  | rel doc doc' hedit => exact hedit.sameContents
  | refl doc => exact ⟨rfl, List.Perm.refl _, Iff.rfl⟩
  | symm doc doc' _ ih => exact ⟨ih.rest.symm, ih.thresholds.symm, ih.table.symm⟩
  | trans doc doc' doc'' _ _ ih ih' =>
    exact ⟨ih'.rest.trans ih.rest, ih'.thresholds.trans ih.thresholds, ih'.table.trans ih.table⟩

theorem Unambiguous.of_sameContents {doc doc' : Entries} (h : Unambiguous doc)
    (hsame : SameContents doc doc') : Unambiguous doc' where
  table := hsame.table.mpr h.table
  distinct := (hsame.thresholds.map _).nodup_iff.mpr h.distinct

/-! ### Reading the thresholds -/

/-- Entries with texts for keys, as the reader handles them. -/
def asRaw (es : Entries) : RawEntries :=
  es.map fun (k, v) ↦ (.text k, v)

/-- One step of the check: a threshold that passes is put among those before it. -/
def putChecked (acc : Entries) (e : String × Value) : Except String Entries := do
  return acc.put e.1 (← checkThreshold e.1 e.2)

/-- The check of thresholds that stand under the names of thresholds. -/
def checkNamed (es : Entries) : Except String Entries :=
  es.foldlM putChecked []

section Reading

variable {es doc : Entries}

theorem checkThresholds_asRaw (es : Entries) :
    checkThresholds (asRaw es) = checkNamed (normalized es) := by
  rw [checkThresholds, checkNamed, asRaw, normalized, List.foldlM_map, List.foldlM_map]
  rfl

theorem putRaw_asRaw (key : String) (v : Value) (es : Entries) :
    putRaw (.text key) v (asRaw es) = asRaw (es.put key v) := by
  induction es with
  | nil => rfl
  | cons e es ih =>
    show (if e.1 == key then _ else _) = asRaw (if e.1 == key then _ else _)
    split
    · rfl
    · exact congrArg _ ih

theorem entriesOf_underThresholds (h : Unambiguous doc) :
    entriesOf (underThresholds doc) = .ok (asRaw (inTable doc)) := by
  have hfirst : doc.get? "thresholds" = (ownTables doc).head? := by
    rw [Entries.get?, ownTables, List.head?_map, List.head?_filter]
  rw [underThresholds, hfirst, inTable]
  rcases h.table with hnone | ⟨es, hone⟩
  · rw [hnone]
    rfl
  · rw [hone]
    show entriesOf (.table es) = .ok (asRaw (es ++ []))
    rw [entriesOf_table, List.append_nil]
    rfl

/-- Thresholds at the top level come after those of the table. -/
theorem overridesOf_partsOf (h : (es ++ topThresholds doc).keys.Nodup) :
    overridesOf (partsOf doc (asRaw es)).thresholds =
      checkOverrides ["thresholds"] (asRaw (es ++ topThresholds doc)) := by
  have htop : (doc.erase "thresholds").filter (fun e ↦ isThresholdKey e.1) = topThresholds doc := by
    rw [Entries.erase, List.filter_filter]
    refine List.filter_congr fun e _ ↦ ?_
    cases hkey : isThresholdKey e.1 with
    | false => rfl
    | true => simpa using ne_thresholds_of_isThresholdKey hkey
  have hall : (topThresholds doc).foldl (fun es (k, v) ↦ putRaw (.text k) v es) (asRaw es) =
      asRaw (es ++ topThresholds doc) := by
    rw [← Entries.foldl_put_of_new es h]
    exact List.foldl_hom asRaw fun es e ↦ putRaw_asRaw e.1 e.2 es
  simp only [partsOf, htop, hall]
  split
  · next hempty =>
    rw [List.isEmpty_iff.mp hempty]
    rfl
  · rfl

theorem keys_normalized (es : Entries) : (normalized es).keys = es.keys.map normalizeKey := by
  simp [normalized, Entries.keys]

/-- Whether named thresholds pass their check does not depend on their order. -/
theorem exists_checkNamed_iff (es : Entries) :
    (∃ overrides, checkNamed es = .ok overrides) ↔
      ∀ e ∈ es, ∃ v, checkThreshold e.1 e.2 = .ok v := by
  refine exists_foldlM_eq_ok_iff (fun acc e ↦ ?_) es []
  constructor
  · rintro ⟨acc', h⟩
    obtain ⟨v, hv, -⟩ := exists_of_bind_eq_ok h
    exact ⟨v, hv⟩
  · rintro ⟨v, hv⟩
    rw [putChecked, hv]
    exact ⟨_, rfl⟩

theorem get?_of_foldlM_putChecked {overrides : Entries} (key : String)
    (hdistinct : es.keys.Nodup) : ∀ acc, es.foldlM putChecked acc = .ok overrides →
      overrides.get? key =
        ((es.get? key).bind fun v ↦ (checkThreshold key v).toOption).or (acc.get? key) := by
  induction es with
  | nil =>
    intro acc h
    cases h
    rfl
  | cons e es ih =>
    intro acc h
    rw [Entries.keys_cons, List.nodup_cons] at hdistinct
    rw [List.foldlM_cons] at h
    obtain ⟨next, hnext, hrest⟩ := exists_of_bind_eq_ok h
    obtain ⟨v, hv, hput⟩ := exists_of_bind_eq_ok hnext
    cases hput
    rw [ih hdistinct.2 _ hrest, Entries.get?_put, Entries.get?_cons]
    by_cases hkey : e.1 = key
    · subst hkey
      rw [if_pos rfl, if_pos rfl, Entries.get?_eq_none_iff.mpr hdistinct.1, Option.bind_some, hv]
      rfl
    · rw [if_neg hkey, if_neg hkey]

/-- Under distinct names, a threshold is overridden by what passes the check under its name. -/
theorem get?_of_checkNamed {overrides : Entries} (hdistinct : es.keys.Nodup)
    (h : checkNamed es = .ok overrides) (key : String) :
    overrides.get? key = (es.get? key).bind fun v ↦ (checkThreshold key v).toOption :=
  (get?_of_foldlM_putChecked key hdistinct [] h).trans Option.or_none

end Reading

/-! ### Reading the whole document -/

/-- What is read from the entries that are no thresholds: the detectors and the output settings. -/
structure ReadsRest (rest : Entries) (s : Settings) : Prop where
  detectors : checkEnabled rest
    (spelling? rest "enabled_detectors" (some "enabledDetectors")) = .ok (.ok s.enabledDetectors)
  output : fieldOr {} [] rest checkOutput (spelling? rest "output" none) = .ok s.output
  extra : checkExtra [] [spelling? rest "enabled_detectors" (some "enabledDetectors"),
    spelling? rest "output" none] rest = .ok ()

theorem checkOverrides_eq_ok_iff {place : List String} {raw : RawEntries} {overrides : Entries} :
    checkOverrides place raw = .ok overrides ↔ checkThresholds raw = .ok overrides := by
  unfold checkOverrides
  split
  · next h => rw [h, Except.ok.injEq, Except.ok.injEq]
  · next h => rw [h]; exact iff_of_false nofun nofun

/-- Settings are read from an unambiguous document exactly when they are read from its two parts,
the thresholds under their names and all the rest. -/
theorem ofDocument_eq_ok_iff {doc : Entries} (h : Unambiguous doc) {s : Settings} :
    ofDocument doc = .ok s ↔
      ReadsRest (restOf doc) s ∧ checkNamed (thresholdsOf doc) = .ok s.thresholds := by
  have hkeys : (Entries.keys (inTable doc ++ topThresholds doc)).Nodup := by
    refine List.Nodup.of_map normalizeKey ?_
    rw [← keys_normalized]
    exact h.distinct
  rw [ofDocument_eq, entriesOf_underThresholds h]
  show validateParts (partsOf doc _) = .ok s ↔ _
  rw [validateParts_eq_ok_iff, overridesOf_partsOf hkeys, checkOverrides_eq_ok_iff,
    checkThresholds_asRaw, top_partsOf]
  exact ⟨fun ⟨hdetectors, hthresholds, houtput, hextra⟩ ↦
      ⟨⟨hdetectors, houtput, hextra⟩, hthresholds⟩,
    fun ⟨⟨hdetectors, houtput, hextra⟩, hthresholds⟩ ↦
      ⟨hdetectors, hthresholds, houtput, hextra⟩⟩

/-- Documents with the same contents are read alike: the second is accepted when the first is, and
only the order of the overrides may differ. -/
theorem exists_ofDocument_of_sameContents {doc doc' : Entries} {s : Settings}
    (h : Unambiguous doc) (hsame : SameContents doc doc') (hs : ofDocument doc = .ok s) :
    ∃ overrides, ofDocument doc' = .ok { s with thresholds := overrides } ∧
      ∀ key, overrides.get? key = s.thresholds.get? key := by
  have h' := h.of_sameContents hsame
  obtain ⟨hrest, hthresholds⟩ := (ofDocument_eq_ok_iff h).mp hs
  obtain ⟨overrides, hoverrides⟩ : ∃ overrides, checkNamed (thresholdsOf doc') = .ok overrides := by
    refine (exists_checkNamed_iff _).mpr fun e he ↦ ?_
    exact (exists_checkNamed_iff _).mp ⟨_, hthresholds⟩ e (hsame.thresholds.mem_iff.mp he)
  refine ⟨overrides, (ofDocument_eq_ok_iff h').mpr ⟨?_, hoverrides⟩, fun key ↦ ?_⟩
  · rw [hsame.rest]
    exact ⟨hrest.detectors, hrest.output, hrest.extra⟩
  · have hfound : (thresholdsOf doc').get? key = (thresholdsOf doc).get? key :=
      congrArg (Option.map _) (find?_perm hsame.thresholds h.distinct key)
    rw [get?_of_checkNamed h'.distinct hoverrides, get?_of_checkNamed h.distinct hthresholds,
      hfound]

/-- The thresholds in force do not depend on the order of the overrides. -/
theorem effectiveThresholds_congr {doc doc' : Entries} {s s' : Settings}
    (hs : ofDocument doc = .ok s) (hs' : ofDocument doc' = .ok s')
    (hget : ∀ key, s'.thresholds.get? key = s.thresholds.get? key) :
    s'.effectiveThresholds = s.effectiveThresholds := by
  have hkeys : ∀ {doc : Entries} {s : Settings}, ofDocument doc = .ok s →
      s.effectiveThresholds.keys = Catalog.defaultThresholds.keys := by
    intro doc s hs
    refine keys_effectiveThresholds fun key hkey ↦ ?_
    obtain ⟨e, he, rfl⟩ := List.mem_map.mp hkey
    exact (overrides_of_ofDocument hs e he).known
  refine Entries.eq_of_get?_eq ((hkeys hs').trans (hkeys hs).symm) ?_ fun key ↦ ?_
  · rw [hkeys hs']
    exact defaults_keys_nodup
  · rw [get?_effectiveThresholds (keys_nodup_of_ofDocument hs'),
      get?_effectiveThresholds (keys_nodup_of_ofDocument hs), hget]

/-- How thresholds are spelled and where they stand does not matter. Of a document and one that
edits turn it into, both are accepted or none is; and the settings that come out have the same
detectors, the same overrides under each name, the same thresholds in force and the same output
settings. Assumes: a document without or with one table of thresholds, in which no threshold is
named twice. -/
theorem ofDocument_of_edits {doc doc' : Entries} (h : Unambiguous doc)
    (hedits : Relation.EqvGen Edit doc doc') :
    ((∃ s', ofDocument doc' = .ok s') ↔ ∃ s, ofDocument doc = .ok s) ∧
    ∀ s s', ofDocument doc = .ok s → ofDocument doc' = .ok s' →
      s'.enabledDetectors = s.enabledDetectors ∧
      (∀ key, s'.thresholds.get? key = s.thresholds.get? key) ∧
      s'.effectiveThresholds = s.effectiveThresholds ∧
      s'.output = s.output := by
  have hsame := sameContents_of_edits hedits
  have hback := sameContents_of_edits (hedits.symm _ _)
  refine ⟨⟨?_, ?_⟩, fun s s' hs hs' ↦ ?_⟩
  · rintro ⟨s', hs'⟩
    obtain ⟨_, hs, -⟩ := exists_ofDocument_of_sameContents (h.of_sameContents hsame) hback hs'
    exact ⟨_, hs⟩
  · rintro ⟨s, hs⟩
    obtain ⟨_, hs', -⟩ := exists_ofDocument_of_sameContents h hsame hs
    exact ⟨_, hs'⟩
  · obtain ⟨overrides, hread, hget⟩ := exists_ofDocument_of_sameContents h hsame hs
    obtain rfl : { s with thresholds := overrides } = s' := Except.ok.inj (hread.symm.trans hs')
    exact ⟨rfl, hget, effectiveThresholds_congr hs hs' hget, rfl⟩

/-- A threshold is moved into the table and gets another spelling there, and one that stands there
is moved out and gets another spelling: the overrides come out in another order, and the same
thresholds are in force. -/
theorem ofDocument_of_edits_exchanged :
    ∃ s s', ofDocument [("maxLines", .whole 40), ("output", .table []),
        ("thresholds", .table [("minSimilarity", .whole 1)])] = .ok s ∧
      ofDocument [("output", .table []), ("min_similarity", .whole 1),
        ("thresholds", .table [("max_lines", .whole 40)])] = .ok s' ∧
      s.thresholds = [("min_similarity", .whole 1), ("max_lines", .whole 40)] ∧
      s'.thresholds = [("max_lines", .whole 40), ("min_similarity", .whole 1)] ∧
      s'.effectiveThresholds = s.effectiveThresholds := by
  have hin : Edit
      [("output", .table []),
        ("thresholds", .table [("maxLines", .whole 40), ("minSimilarity", .whole 1)])]
      [("maxLines", .whole 40), ("output", .table []),
        ("thresholds", .table [("minSimilarity", .whole 1)])] :=
    .moveOut [("output", .table [])] [] [] [("minSimilarity", .whole 1)] [] _ (.whole 40)
      (by decide +kernel) rfl
  have hlines : Edit
      [("output", .table []),
        ("thresholds", .table [("maxLines", .whole 40), ("minSimilarity", .whole 1)])]
      [("output", .table []),
        ("thresholds", .table [("max_lines", .whole 40), ("minSimilarity", .whole 1)])] :=
    .respellInTable [("output", .table [])] [] [] [("minSimilarity", .whole 1)] (.whole 40)
      (by decide +kernel)
  have hout : Edit
      [("output", .table []),
        ("thresholds", .table [("max_lines", .whole 40), ("minSimilarity", .whole 1)])]
      [("output", .table []), ("minSimilarity", .whole 1),
        ("thresholds", .table [("max_lines", .whole 40)])] :=
    .moveOut [("output", .table [])] [] [("max_lines", .whole 40)] [] [("output", .table [])] _
      (.whole 1) (by decide +kernel) rfl
  have hsimilarity : Edit
      [("output", .table []), ("minSimilarity", .whole 1),
        ("thresholds", .table [("max_lines", .whole 40)])]
      [("output", .table []), ("min_similarity", .whole 1),
        ("thresholds", .table [("max_lines", .whole 40)])] :=
    .respell [("output", .table [])] [("thresholds", .table [("max_lines", .whole 40)])] (.whole 1)
      (by decide +kernel) (by decide +kernel)
  have hedits := ((Relation.EqvGen.rel _ _ hin).symm.trans _ _ _ (.rel _ _ hlines)).trans _ _ _
    ((Relation.EqvGen.rel _ _ hout).trans _ _ _ (.rel _ _ hsimilarity))
  have hread : ofDocument [("maxLines", .whole 40), ("output", .table []),
      ("thresholds", .table [("minSimilarity", .whole 1)])] = .ok
        ⟨Catalog.names, [("min_similarity", .whole 1), ("max_lines", .whole 40)], {}⟩ := by
    rfl
  have hread' : ofDocument [("output", .table []), ("min_similarity", .whole 1),
      ("thresholds", .table [("max_lines", .whole 40)])] = .ok
        ⟨Catalog.names, [("max_lines", .whole 40), ("min_similarity", .whole 1)], {}⟩ := by
    rfl
  obtain ⟨-, hsame⟩ := ofDocument_of_edits ⟨Or.inr ⟨_, rfl⟩, by decide +kernel⟩ hedits
  exact ⟨_, _, hread, hread', rfl, rfl, (hsame _ _ hread hread').2.2.1⟩

end CodeSmells.Config
