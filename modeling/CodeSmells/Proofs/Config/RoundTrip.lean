import CodeSmells.Proofs.Analysis.Isolation
import CodeSmells.Proofs.Config.Refusal

/-!
# Settings written as a document and read again

Settings are written as a document with the names of fields for keys and with every threshold
spelled out. The reader knows other spellings too, looks for thresholds at the top level, rounds
whole fractions and drops repeated detectors, so that what it reads need not be what was written.
`document_roundTrip` shows that for accepted settings it is: the document is accepted, and the
settings that come out have the same detectors, the same thresholds in force, for every detector as
well as for all of them, and the same output settings. Only the overrides change, since every
threshold in force is an override afterwards.

What the reader accepts is in the form that it leaves alone: detectors are known and distinct
(`enabled_of_ofDocument`), thresholds pass the check unchanged (`checkThresholds_of_accepted`), and
output settings are read as they are written (`checkOutput_toValue`).
-/

set_option autoImplicit false
set_option relaxedAutoImplicit false

namespace CodeSmells.Config

/-! ### What accepted settings are put together from -/

theorem both_eq_ok_iff {α β : Type} {x : Checked α} {y : Checked β} {a : α} {b : β} :
    both x y = .ok (a, b) ↔ x = .ok a ∧ y = .ok b := by
  refine ⟨both_eq_ok, ?_⟩
  rintro ⟨rfl, rfl⟩
  rfl

/-- Parts of a document amount to settings exactly when each of them passes its own check. -/
theorem validateParts_eq_ok_iff {p : Parts} {s : Settings} :
    validateParts p = .ok s ↔
      checkEnabled p.top (spelling? p.top "enabled_detectors" (some "enabledDetectors")) =
        .ok (.ok s.enabledDetectors) ∧
      overridesOf p.thresholds = .ok s.thresholds ∧
      fieldOr {} [] p.top checkOutput (spelling? p.top "output" none) = .ok s.output ∧
      checkExtra [] [spelling? p.top "enabled_detectors" (some "enabledDetectors"),
        spelling? p.top "output" none] p.top = .ok () := by
  constructor
  · intro h
    obtain ⟨enabled, henabled, h⟩ := exists_of_bind_eq_ok h
    simp only at h
    split at h
    · next hall =>
      cases h
      simp only [both_eq_ok_iff] at hall
      obtain ⟨rfl, hoverrides, houtput, hextra⟩ := hall
      exact ⟨henabled, hoverrides, houtput, hextra⟩
    · cases h
  · rintro ⟨henabled, hoverrides, houtput, hextra⟩
    simp only [validateParts, henabled, hoverrides, houtput, hextra, both, bind, Except.bind]
    rfl

theorem exists_validateParts_of_ofDocument {doc : Entries} {s : Settings}
    (h : ofDocument doc = .ok s) :
    ∃ inTable, validateParts (partsOf doc inTable) = .ok s := by
  rw [ofDocument_eq] at h
  obtain ⟨inTable, -, hparts⟩ := exists_of_bind_eq_ok h
  exact ⟨inTable, hparts⟩

/-! ### Detectors -/

/-- Names of detectors without repetitions. -/
def DistinctNames (names : List String) : Prop :=
  (∀ name ∈ names, name ∈ Catalog.names) ∧ names.Nodup

/-- Names that come out of the check are known and distinct when those before them are. -/
theorem distinctNames_of_checkNames {place names : List String} (values : List Value) :
    ∀ seen, DistinctNames seen → checkNames place seen values = .ok (.ok names) →
      DistinctNames names := by
  induction values with
  | nil =>
    intro seen hseen h
    cases h
    exact hseen
  | cons value rest ih =>
    intro seen hseen h
    unfold checkNames at h
    split at h
    · cases h
    · split at h
      · next name _ =>
        split at h
        · next hknown =>
          refine ih _ ?_ h
          split
          · exact hseen
          · next hnew =>
            have hnew' : name ∉ seen := by simpa using hnew
            refine ⟨fun other hother ↦ ?_, ?_⟩
            · rcases List.mem_append.mp hother with hin | hlast
              · exact hseen.1 other hin
              · rw [List.mem_singleton.mp hlast]
                simpa using hknown
            · exact hseen.2.append (List.nodup_singleton name) fun other hin hlast ↦
                hnew' (List.mem_singleton.mp hlast ▸ hin)
        · cases h
      · cases h

/-- Known and distinct names pass the check unchanged. -/
theorem checkNames_of_distinctNames (place : List String) {names : List String}
    (hknown : ∀ name ∈ names, name ∈ Catalog.names) : ∀ seen, (seen ++ names).Nodup →
      checkNames place seen (names.map .text) = .ok (.ok (seen ++ names)) := by
  induction names with
  | nil =>
    intro seen _
    rw [List.append_nil]
    rfl
  | cons name names ih =>
    intro seen hnodup
    have hin : Catalog.names.contains name = true := by
      simpa using hknown name List.mem_cons_self
    have hnew : seen.contains name = false := by
      have hnot := (List.nodup_append.mp hnodup).2.2
      simpa using fun hseen ↦ hnot name hseen name List.mem_cons_self rfl
    have hrest := ih (fun other h ↦ hknown other (List.mem_cons_of_mem _ h)) (seen ++ [name])
      (by simpa using hnodup)
    rw [List.map_cons, checkNames]
    simp only [Value.isHashable, Bool.not_true, Bool.false_eq_true, ↓reduceIte, hin, hnew]
    rw [hrest, List.append_assoc, List.singleton_append]

/-- Accepted settings enable known detectors, each once. -/
theorem enabled_of_ofDocument {doc : Entries} {s : Settings} (h : ofDocument doc = .ok s) :
    DistinctNames s.enabledDetectors := by
  have hcatalog : DistinctNames Catalog.names := ⟨fun _ hname ↦ hname, Catalog.names_nodup⟩
  obtain ⟨inTable, hparts⟩ := exists_validateParts_of_ofDocument h
  obtain ⟨henabled, -⟩ := validateParts_eq_ok_iff.mp hparts
  generalize s.enabledDetectors = names at henabled ⊢
  unfold checkEnabled at henabled
  split at henabled
  · cases henabled
    exact hcatalog
  · unfold checkDetectors at henabled
    split at henabled
    · cases henabled
      exact hcatalog
    · exact distinctNames_of_checkNames _ [] ⟨nofun, List.nodup_nil⟩ henabled
    · cases henabled

/-! ### Thresholds -/

/-- The names of thresholds are spelled the way the program knows them by. -/
theorem normalizeKey_of_known {key : String} (h : key ∈ Catalog.defaultThresholds.keys) :
    normalizeKey key = key := by
  have hall : ∀ k ∈ Catalog.defaultThresholds.keys, normalizeKey k = k := by
    rw [Catalog.defaultThresholds_eq]
    decide +kernel
  exact hall key h

/-- The overrides that come out of the check of a table have distinct keys. -/
theorem checkThresholds_keys_nodup {raw : RawEntries} {overrides : Entries}
    (h : checkThresholds raw = .ok overrides) : overrides.keys.Nodup := by
  refine foldlM_invariant (P := fun es : Entries ↦ es.keys.Nodup) ?_ raw [] overrides
    List.nodup_nil h
  rintro es ⟨k, v⟩ es' hes hstep
  obtain ⟨shown, -, hstep⟩ := exists_of_bind_eq_ok hstep
  obtain ⟨w, -, hstep⟩ := exists_of_bind_eq_ok hstep
  cases hstep
  exact Entries.keys_put_nodup hes _ _

/-- The overrides of accepted settings have distinct keys. -/
theorem keys_nodup_of_ofDocument {doc : Entries} {s : Settings} (h : ofDocument doc = .ok s) :
    s.thresholds.keys.Nodup := by
  obtain ⟨inTable, hparts⟩ := exists_validateParts_of_ofDocument h
  obtain ⟨-, hoverrides, -⟩ := validateParts_eq_ok_iff.mp hparts
  generalize s.thresholds = overrides at hoverrides ⊢
  unfold overridesOf at hoverrides
  split at hoverrides
  · cases hoverrides
    exact List.nodup_nil
  · obtain ⟨raw, -, hraw⟩ := exists_of_bind_eq_ok hoverrides
    unfold checkOverrides at hraw
    split at hraw
    · next hcheck =>
      cases hraw
      exact checkThresholds_keys_nodup hcheck
    · cases hraw

/-- A fold whose steps all succeed is the fold of their results. -/
theorem foldlM_map_eq_ok {ε α β γ : Type} {step : β → γ → Except ε β} {f : β → α → β} {g : α → γ}
    {xs : List α} (h : ∀ x ∈ xs, ∀ b, step b (g x) = .ok (f b x)) :
    ∀ b, (xs.map g).foldlM step b = .ok (xs.foldl f b) := by
  induction xs with
  | nil =>
    intro b
    rfl
  | cons x xs ih =>
    intro b
    rw [List.forall_mem_cons] at h
    rw [List.map_cons, List.foldlM_cons, List.foldl_cons, h.1, ← ih h.2]
    rfl

/-- Thresholds that were let through once, under distinct keys, are let through again unchanged. -/
theorem checkThresholds_of_accepted {es : Entries} (haccepted : ∀ e ∈ es, Accepted e.1 e.2)
    (hnodup : es.keys.Nodup) :
    checkThresholds (es.map fun (k, v) ↦ (.text k, v)) = .ok es := by
  refine Eq.trans (foldlM_map_eq_ok ?_ []) (congrArg Except.ok (Entries.foldl_put_of_new [] hnodup))
  rintro ⟨key, v⟩ he acc
  have hkey := haccepted _ he
  simp only [Value.describe_text, bind, Except.bind, normalizeKey_of_known hkey.known,
    checkThreshold_of_accepted hkey]
  rfl

/-- The thresholds in force stand under the names of the defaults, in their order. -/
theorem keys_effectiveThresholds {s : Settings}
    (hknown : ∀ key ∈ s.thresholds.keys, key ∈ Catalog.defaultThresholds.keys) :
    s.effectiveThresholds.keys = Catalog.defaultThresholds.keys :=
  Entries.keys_foldl_put _ hknown

/-- A threshold in force is the override, or the default where there is none. -/
theorem get?_effectiveThresholds {s : Settings} (hnodup : s.thresholds.keys.Nodup)
    (key : String) : s.effectiveThresholds.get? key =
      (s.thresholds.get? key).or (Catalog.defaultThresholds.get? key) :=
  Entries.get?_foldl_put hnodup key _

/-- The default that a detector declares is the default of the catalog. -/
theorem get?_default_of_detector {d : Detector} (hd : d ∈ Catalog.detectors)
    {e : String × Value} (he : e ∈ d.defaults) :
    Catalog.defaultThresholds.get? e.1 = some e.2 := by
  refine get?_default ?_
  rw [Catalog.defaultThresholds_eq]
  exact List.mem_flatMap_of_mem hd he

/-- Making every threshold in force an override leaves the thresholds in force as they are. -/
theorem effectiveThresholds_spelledOut {s : Settings}
    (hknown : ∀ key ∈ s.thresholds.keys, key ∈ Catalog.defaultThresholds.keys) :
    Settings.effectiveThresholds { s with thresholds := s.effectiveThresholds } =
      s.effectiveThresholds := by
  have hkeys := keys_effectiveThresholds hknown
  have hdistinct : s.effectiveThresholds.keys.Nodup := by
    rw [hkeys]
    exact defaults_keys_nodup
  have hkeys' : (Settings.effectiveThresholds
      { s with thresholds := s.effectiveThresholds }).keys = Catalog.defaultThresholds.keys :=
    keys_effectiveThresholds (s := { s with thresholds := s.effectiveThresholds }) fun key hkey ↦ by
      rw [← hkeys]
      exact hkey
  have hsame := hkeys'.trans hkeys.symm
  have hdistinct' : (Settings.effectiveThresholds
      { s with thresholds := s.effectiveThresholds }).keys.Nodup := by
    rw [hsame]
    exact hdistinct
  refine Entries.eq_of_get?_eq hsame hdistinct' fun key ↦ ?_
  rw [get?_effectiveThresholds hdistinct]
  show (s.effectiveThresholds.get? key).or _ = _
  by_cases hkey : key ∈ Catalog.defaultThresholds.keys
  · rw [← hkeys] at hkey
    cases hget : s.effectiveThresholds.get? key with
    | none => exact (Entries.get?_eq_none_iff.mp hget hkey).elim
    | some v => rfl
  · rw [Entries.get?_eq_none_iff.mpr hkey, Option.or_none]

/-- Making every threshold in force an override leaves those of each detector as they are. -/
theorem thresholdsFor_spelledOut {s : Settings} (hnodup : s.thresholds.keys.Nodup)
    {d : Detector} (hd : d ∈ Catalog.detectors) :
    Settings.thresholdsFor { s with thresholds := s.effectiveThresholds } d =
      s.thresholdsFor d := by
  refine List.map_congr_left fun ⟨key, default⟩ he ↦ ?_
  show (key, (s.effectiveThresholds.get? key).getD default) =
    (key, (s.thresholds.get? key).getD default)
  rw [get?_effectiveThresholds hnodup, get?_default_of_detector hd he]
  cases s.thresholds.get? key <;> rfl

/-- A table is taken apart into its entries, whether it counts as false or not. -/
theorem entriesOf_table (es : Entries) :
    entriesOf (.table es) = .ok (es.map fun (k, v) ↦ (.text k, v)) := by
  cases es <;> rfl

/-! ### Output settings and the whole document -/

/-- A format is read off its name. -/
theorem ofText?_name (f : ReportFormat) : ReportFormat.ofText? f.name = some f := by
  cases f <;> decide +kernel

/-- Output settings are read as they are written. -/
theorem checkOutput_toValue (place : List String) (o : OutputSettings) :
    checkOutput place o.toValue = .ok o := by
  have hformat : ∀ place, checkFormat place (.text o.format.name) = .ok o.format := by
    intro place
    simp only [checkFormat, Value.describe_text, ofText?_name]
  simp [checkOutput, OutputSettings.toValue, spelling?, Entries.has, Entries.get?, fieldOr, hformat,
    checkText, checkFlag, checkExtra, both, Except.map]

/-- The parts of written settings: detectors and output settings at the top level, and all
thresholds in their own table. -/
theorem partsOf_toDocument (s : Settings) {raw : RawEntries} (hraw : raw ≠ []) :
    partsOf s.toDocument raw =
      ⟨[("enabled_detectors", .list (s.enabledDetectors.map .text)), ("output", s.output.toValue)],
        some (.ok raw)⟩ := by
  have hdetectors : isThresholdKey "enabled_detectors" = false := by
    rw [isThresholdKey_eq]
    decide +kernel
  have houtput : isThresholdKey "output" = false := by
    rw [isThresholdKey_eq]
    decide +kernel
  have hrest : s.toDocument.erase "thresholds" =
      [("enabled_detectors", .list (s.enabledDetectors.map .text)),
        ("output", s.output.toValue)] := rfl
  simp [partsOf, hrest, hdetectors, houtput, hraw]

/-- Accepted settings that are written as a document and read again are accepted, with the same
detectors, the same thresholds in force, the same thresholds for each detector and the same output
settings; so they are written as the same document. Assumes: settings from an accepted document. -/
theorem document_roundTrip {doc : Entries} {s : Settings} (h : ofDocument doc = .ok s) :
    ∃ s', ofDocument s.toDocument = .ok s' ∧
      s'.enabledDetectors = s.enabledDetectors ∧
      s'.effectiveThresholds = s.effectiveThresholds ∧
      (∀ d ∈ Catalog.detectors, s'.thresholdsFor d = s.thresholdsFor d) ∧
      s'.output = s.output ∧
      s'.toDocument = s.toDocument := by
  have hnodup := keys_nodup_of_ofDocument h
  have hknown : ∀ key ∈ s.thresholds.keys, key ∈ Catalog.defaultThresholds.keys := by
    intro key hkey
    obtain ⟨e, he, rfl⟩ := List.mem_map.mp hkey
    exact (overrides_of_ofDocument h e he).known
  have hkeys := keys_effectiveThresholds hknown
  have hspelled := effectiveThresholds_spelledOut hknown
  have hthresholds := checkThresholds_of_accepted (effective_of_ofDocument h)
    (hkeys ▸ defaults_keys_nodup)
  have hnames := enabled_of_ofDocument h
  have hlist := checkNames_of_distinctNames ["enabled_detectors"] hnames.1 [] hnames.2
  have hraw : (s.effectiveThresholds.map fun (k, v) ↦ ((.text k, v) : Value × Value)) ≠ [] := by
    intro hempty
    have hnone : s.effectiveThresholds = [] := List.map_eq_nil_iff.mp hempty
    rw [hnone] at hkeys
    exact absurd hkeys (by decide +kernel)
  refine ⟨{ s with thresholds := s.effectiveThresholds }, ?_, rfl, hspelled,
    fun d hd ↦ thresholdsFor_spelledOut hnodup hd, rfl, ?_⟩
  · rw [ofDocument_eq, show underThresholds s.toDocument = .table s.effectiveThresholds from rfl,
      entriesOf_table]
    dsimp only [bind, Except.bind]
    rw [partsOf_toDocument s hraw, validateParts_eq_ok_iff]
    refine ⟨hlist, ?_, checkOutput_toValue ["output"] s.output, rfl⟩
    simp only [overridesOf, Except.bind, checkOverrides, hthresholds]
  · simp only [Settings.toDocument, hspelled]

/-- A document with a repeated detector, a threshold in another spelling at the top level, a whole
fraction for a whole number and an undefined ratio: it is accepted, and what is read from the
document written for it has the same detectors and thresholds. -/
theorem document_roundTrip_mixed :
    ∃ s s', ofDocument [("enabledDetectors", .list [.text "LazyClass", .text "LazyClass"]),
        ("maxLines", .real (.finite 40)),
        ("thresholds", .table [("min_similarity", .real .undefined)])] = .ok s ∧
      s.thresholds = [("min_similarity", .real .undefined), ("max_lines", .whole 40)] ∧
      ofDocument s.toDocument = .ok s' ∧ s'.enabledDetectors = ["LazyClass"] ∧
      s'.effectiveThresholds = s.effectiveThresholds := by
  have haccepted : ofDocument [("enabledDetectors", .list [.text "LazyClass", .text "LazyClass"]),
      ("maxLines", .real (.finite 40)),
      ("thresholds", .table [("min_similarity", .real .undefined)])] = .ok
      ⟨["LazyClass"], [("min_similarity", .real .undefined), ("max_lines", .whole 40)], {}⟩ := by
    rfl
  obtain ⟨s', hread, hnames, hthresholds, -⟩ := document_roundTrip haccepted
  exact ⟨_, s', haccepted, rfl, hread, hnames, hthresholds⟩

end CodeSmells.Config
