import CodeSmells.Proofs.Config.Thresholds
import CodeSmells.Proofs.Value.Entries

/-!
# How the reading of a document ends

A document that does not validate is meant to be refused with a list of its problems. Two of its
parts are put to use before they are checked, however. What stands under `thresholds` is taken apart
into entries, which a number, a truth value or a sequence of anything but pairs does not allow; and
the members of the list of detectors are looked up in a set, which a list or a table among them does
not allow. Such a document breaks off the reading with a reason that is no refusal.

`HoldsEntries` and `NamesUsable` say of the two parts what the reading needs of them, and
`ofDocument_endsProperly_iff` shows that it needs nothing else: with both, the reading ends with
settings or with a refusal, whatever the other parts hold, and without one of them it breaks off.
-/

set_option autoImplicit false
set_option relaxedAutoImplicit false

namespace CodeSmells.Config

/-- The reading of a document ends properly: with settings, or with a refusal that lists the
problems. -/
def EndsProperly (ending : Except DocumentError Settings) : Prop :=
  (∃ s, ending = .ok s) ∨ ∃ problems, ending = .error (.refused (.invalid problems))

/-- The reasons that are no refusal and that the reading of a document may break off with. -/
def BreaksOff (reason : DocumentError) : Prop :=
  reason = .unevenPair ∨ reason = .unusable

theorem BreaksOff.not_endsProperly {reason : DocumentError} (h : BreaksOff reason) :
    ¬ EndsProperly (.error reason) := by
  rintro (⟨s, hs⟩ | ⟨problems, hproblems⟩)
  · cases hs
  · cases hproblems
    rcases h with h | h <;> cases h

/-! ### Folds that may fail -/

section Folds

variable {ε α β : Type} {step : β → α → Except ε β}

/-- A fold succeeds when its step succeeds at every member, if the value reached so far has no say
in that. -/
theorem exists_foldlM_eq_ok_iff {P : α → Prop}
    (hstep : ∀ b a, (∃ b', step b a = .ok b') ↔ P a) (xs : List α) :
    ∀ b, (∃ b', xs.foldlM step b = .ok b') ↔ ∀ a ∈ xs, P a := by
  induction xs with
  | nil =>
    intro b
    exact iff_of_true ⟨b, rfl⟩ fun a ha ↦ (List.not_mem_nil ha).elim
  | cons x xs ih =>
    intro b
    rw [List.foldlM_cons, List.forall_mem_cons]
    constructor
    · rintro ⟨last, hlast⟩
      obtain ⟨next, hnext, hrest⟩ := exists_of_bind_eq_ok hlast
      exact ⟨(hstep b x).mp ⟨next, hnext⟩, (ih next).mp ⟨last, hrest⟩⟩
    · rintro ⟨hx, hxs⟩
      obtain ⟨next, hnext⟩ := (hstep b x).mpr hx
      rw [hnext]
      exact (ih next).mpr hxs

/-- A fold fails for a reason that one of its steps fails for. -/
theorem foldlM_error {Q : ε → Prop} (hstep : ∀ b a e, step b a = .error e → Q e) (xs : List α) :
    ∀ b e, xs.foldlM step b = .error e → Q e := by
  induction xs with
  | nil =>
    intro b e h
    cases h
  | cons x xs ih =>
    intro b e h
    rw [List.foldlM_cons] at h
    cases hx : step b x with
    | error reason =>
      rw [hx] at h
      cases h
      exact hstep b x e hx
    | ok next =>
      rw [hx] at h
      exact ih next e h

end Folds

/-! ### What stands under `thresholds` -/

/-- A pair: a sequence of two members, the first of which can be a key. -/
def IsPair (item : Value) : Prop :=
  ∃ k v, item.members? = some [k, v] ∧ k.isHashable = true

/-- A value that can be taken apart into entries: one that counts as false, a table, or a sequence
of pairs. -/
def HoldsEntries (value : Value) : Prop :=
  value.isTruthy = false ∨ (∃ es, value = .table es) ∨
    ∃ items, value.members? = some items ∧ ∀ item ∈ items, IsPair item

theorem exists_pairOf_iff (item : Value) : (∃ e, pairOf item = .ok e) ↔ IsPair item := by
  unfold pairOf IsPair
  constructor
  · rintro ⟨e, he⟩
    split at he
    · cases he
    · next k v hmembers =>
      split at he
      · next hkey => exact ⟨k, v, hmembers, hkey⟩
      · cases he
    · cases he
  · rintro ⟨k, v, hmembers, hkey⟩
    exact ⟨(k, v), by simp only [hmembers, hkey, ↓reduceIte]⟩

theorem pairOf_error {item : Value} {reason : DocumentError} (h : pairOf item = .error reason) :
    BreaksOff reason := by
  unfold pairOf at h
  split at h
  · cases h
    exact Or.inr rfl
  · split at h
    · cases h
    · cases h
      exact Or.inr rfl
  · cases h
    exact Or.inl rfl

/-- Putting the pair of an item among entries succeeds when the item is a pair. -/
theorem exists_putPair_iff (es : RawEntries) (item : Value) :
    (∃ es', (do
      let (k, v) ← pairOf item
      return putRaw k v es : Except DocumentError RawEntries) = .ok es') ↔ IsPair item := by
  rw [← exists_pairOf_iff]
  constructor
  · rintro ⟨es', h⟩
    obtain ⟨e, he, -⟩ := exists_of_bind_eq_ok h
    exact ⟨e, he⟩
  · rintro ⟨e, he⟩
    rw [he]
    exact ⟨_, rfl⟩

/-- A value is taken apart into entries exactly when it holds entries. -/
theorem exists_entriesOf_iff (value : Value) :
    (∃ es, entriesOf value = .ok es) ↔ HoldsEntries value := by
  unfold entriesOf HoldsEntries
  cases htrue : value.isTruthy with
  | false => exact iff_of_true ⟨[], rfl⟩ (Or.inl rfl)
  | true =>
    have hpairs := exists_foldlM_eq_ok_iff exists_putPair_iff
    simp only [Bool.not_true, Bool.false_eq_true, ↓reduceIte, Bool.true_eq_false, false_or]
    cases value with
    | table es => exact iff_of_true ⟨_, rfl⟩ (Or.inl ⟨es, rfl⟩)
    | text s => simpa [Value.members?] using hpairs (s.toList.map _) []
    | list items => simpa [Value.members?] using hpairs items []
    | row items => simpa [Value.members?] using hpairs items []
    | _ => simp [Value.members?]

theorem entriesOf_error {value : Value} {reason : DocumentError}
    (h : entriesOf value = .error reason) : BreaksOff reason := by
  unfold entriesOf at h
  split at h
  · cases h
  · split at h
    · cases h
    · split at h
      · cases h
        exact Or.inr rfl
      · refine foldlM_error (fun es item e he ↦ ?_) _ _ _ h
        cases hpair : pairOf item with
        | error reason =>
          rw [hpair] at he
          cases he
          exact pairOf_error hpair
        | ok pair =>
          rw [hpair] at he
          cases he

/-! ### The names of detectors -/

/-- Whether a value is the name of a detector. -/
def isKnownName : Value → Bool
  | .text s => Catalog.names.contains s
  | _ => false

/-- A value whose members can be looked up among the names of detectors: where it is a list, the
first member that is no known name can be a member of a set. The members after that one are not
looked at. -/
def NamesUsable (value : Value) : Prop :=
  ∀ names first, value = .list names →
    names.find? (fun name ↦ !isKnownName name) = some first → first.isHashable = true

theorem exists_checkNames_iff (place : List String) (names : List Value) : ∀ seen,
    (∃ checked, checkNames place seen names = .ok checked) ↔
      ∀ first, names.find? (fun name ↦ !isKnownName name) = some first →
        first.isHashable = true := by
  induction names with
  | nil =>
    intro seen
    exact iff_of_true ⟨_, rfl⟩ nofun
  | cons name rest ih =>
    intro seen
    unfold checkNames
    cases hhash : name.isHashable with
    | false =>
      -- A value that cannot be looked up is no known name, so it is the first such member.
      have hunknown : isKnownName name = false := by
        cases name with
        | text s => cases hhash
        | _ => rfl
      simp [hunknown, hhash]
    | true =>
      cases hknown : isKnownName name with
      | false =>
        have hfirst : ((name :: rest).find? fun name ↦ !isKnownName name) = some name := by
          simp [hknown]
        refine iff_of_true ?_ fun first h ↦ Option.some.inj (hfirst.symm.trans h) ▸ hhash
        cases name with
        | text s =>
          have hnot : Catalog.names.contains s = false := hknown
          simp only [hnot, Bool.not_true, Bool.false_eq_true, ↓reduceIte]
          exact ⟨_, rfl⟩
        | _ => exact ⟨_, rfl⟩
      | true =>
        have hlater : ((name :: rest).find? fun name ↦ !isKnownName name) =
            rest.find? fun name ↦ !isKnownName name := by
          simp [hknown]
        rw [hlater]
        cases name with
        | text s =>
          have hin : Catalog.names.contains s = true := hknown
          simp only [hin, Bool.not_true, Bool.false_eq_true, ↓reduceIte]
          exact ih _
        | _ => cases hknown

theorem checkNames_error {place : List String} {reason : DocumentError} (names : List Value) :
    ∀ seen, checkNames place seen names = .error reason → reason = .unusable := by
  induction names with
  | nil =>
    intro seen h
    cases h
  | cons name rest ih =>
    intro seen h
    unfold checkNames at h
    split at h
    · cases h
      rfl
    · split at h
      · split at h
        · exact ih _ h
        · cases h
      · cases h

theorem exists_checkDetectors_iff (place : List String) (value : Value) :
    (∃ checked, checkDetectors place value = .ok checked) ↔ NamesUsable value := by
  cases value with
  | list names =>
    rw [checkDetectors, exists_checkNames_iff]
    constructor
    · rintro hfirst _ first ⟨⟩ hfind
      exact hfirst first hfind
    · intro husable first hfind
      exact husable names first rfl hfind
  | null => exact iff_of_true ⟨_, rfl⟩ nofun
  | _ => exact iff_of_true ⟨_, rfl⟩ nofun

theorem checkDetectors_error {place : List String} {value : Value} {reason : DocumentError}
    (h : checkDetectors place value = .error reason) : BreaksOff reason := by
  cases value with
  | list names => exact Or.inr (checkNames_error names [] h)
  | _ => cases h

/-! ### The whole document -/

/-- What a document holds under `thresholds`; null when it has no such key. -/
def underThresholds (doc : Entries) : Value :=
  (doc.get? "thresholds").getD .null

/-- What a document holds under the key of its detectors; null when it has no such key. -/
def underDetectors (doc : Entries) : Value :=
  match spelling? doc "enabled_detectors" (some "enabledDetectors") with
  | some key => (doc.get? key).getD .null
  | none => .null

theorem exists_checkEnabled_iff (top : Entries) :
    (∃ checked, checkEnabled top (spelling? top "enabled_detectors" (some "enabledDetectors")) =
      .ok checked) ↔ NamesUsable (underDetectors top) := by
  unfold underDetectors
  cases spelling? top "enabled_detectors" (some "enabledDetectors") with
  | none => exact iff_of_true ⟨_, rfl⟩ nofun
  | some key => exact exists_checkDetectors_iff [key] _

theorem checkEnabled_error {top : Entries} {key : Option String} {reason : DocumentError}
    (h : checkEnabled top key = .error reason) : BreaksOff reason := by
  cases key with
  | none => cases h
  | some key => exact checkDetectors_error h

/-- Once the names of detectors are looked up, the parts of a document end properly: all other
problems are collected. -/
theorem validateParts_endsProperly {p : Parts} (h : NamesUsable (underDetectors p.top)) :
    EndsProperly (validateParts p) := by
  obtain ⟨checked, hchecked⟩ := (exists_checkEnabled_iff p.top).mpr h
  simp only [validateParts, hchecked, bind, Except.bind]
  split
  · exact Or.inl ⟨_, rfl⟩
  · exact Or.inr ⟨_, rfl⟩

/-- Where the names of detectors cannot be looked up, the parts of a document break off. -/
theorem validateParts_breaksOff {p : Parts} (h : ¬ NamesUsable (underDetectors p.top)) :
    ∃ reason, validateParts p = .error reason ∧ BreaksOff reason := by
  cases hchecked : checkEnabled p.top
      (spelling? p.top "enabled_detectors" (some "enabledDetectors")) with
  | ok checked => exact (h ((exists_checkEnabled_iff p.top).mp ⟨checked, hchecked⟩)).elim
  | error reason =>
    refine ⟨reason, ?_, checkEnabled_error hchecked⟩
    simp only [validateParts, hchecked, bind, Except.bind]

/-- A key is looked up among the names of the detectors' thresholds. -/
theorem isThresholdKey_eq (key : String) :
    isThresholdKey key = Entries.has (normalizeKey key) (Catalog.detectors.flatMap (·.defaults)) := by
  rw [isThresholdKey, Catalog.defaultThresholds_eq]

/-- The keys of a document that stay at its top level. -/
def staysOnTop (key : String) : Bool :=
  key != "thresholds" && !isThresholdKey key

/-- The detectors are found at the top level when the thresholds are taken away from it. -/
theorem underDetectors_filter (doc : Entries) :
    underDetectors (doc.filter fun e ↦ staysOnTop e.1) = underDetectors doc := by
  have hname : staysOnTop "enabled_detectors" = true := by
    rw [staysOnTop, isThresholdKey_eq]
    decide +kernel
  have hother : staysOnTop "enabledDetectors" = true := by
    rw [staysOnTop, isThresholdKey_eq]
    decide +kernel
  have hspelling : spelling? (doc.filter fun e ↦ staysOnTop e.1) "enabled_detectors"
      (some "enabledDetectors") = spelling? doc "enabled_detectors" (some "enabledDetectors") := by
    rw [spelling?, spelling?, Entries.has_filter_of_keep hname, Entries.has_filter_of_keep hother]
  have hkey : ∀ key, spelling? doc "enabled_detectors" (some "enabledDetectors") = some key →
      staysOnTop key = true := by
    intro key h
    simp only [spelling?] at h
    split at h
    · cases h
      exact hother
    · split at h
      · cases h
        exact hname
      · cases h
  unfold underDetectors
  rw [hspelling]
  split
  · next key h => rw [Entries.get?_filter_of_keep (hkey key h)]
  · rfl

/-- The parts of a document, given the entries that its own table of thresholds holds. -/
def partsOf (doc : Entries) (inTable : RawEntries) : Parts :=
  let rest := doc.erase "thresholds"
  let all := (rest.filter fun e ↦ isThresholdKey e.1).foldl
    (fun es (k, v) ↦ putRaw (.text k) v es) inTable
  ⟨rest.filter fun e ↦ !isThresholdKey e.1, if all.isEmpty then none else some (.ok all)⟩

/-- A document is read in two steps: its thresholds are taken apart, then its parts are checked. -/
theorem ofDocument_eq (doc : Entries) :
    ofDocument doc = (entriesOf (underThresholds doc) >>= fun inTable ↦
      validateParts (partsOf doc inTable)) :=
  rfl

/-- At the top level stays what is no threshold and not their table. -/
theorem top_partsOf (doc : Entries) (inTable : RawEntries) :
    (partsOf doc inTable).top = doc.filter fun e ↦ staysOnTop e.1 := by
  unfold partsOf Entries.erase
  simp only [List.filter_filter]
  refine List.filter_congr fun e _ ↦ ?_
  rw [staysOnTop, Bool.and_comm]

theorem underDetectors_partsOf (doc : Entries) (inTable : RawEntries) :
    underDetectors (partsOf doc inTable).top = underDetectors doc := by
  rw [top_partsOf, underDetectors_filter]

/-- The reading of a document ends with settings or with a refusal exactly when what stands under
`thresholds` can be taken apart into entries and the names of detectors can be looked up. Where it
breaks off, it is because of a sequence that is no pair or of a value that cannot be used, and never
because of the length of a number. -/
theorem ofDocument_endsProperly_iff (doc : Entries) :
    (EndsProperly (ofDocument doc) ↔
      HoldsEntries (underThresholds doc) ∧ NamesUsable (underDetectors doc)) ∧
    (EndsProperly (ofDocument doc) ∨
      ∃ reason, ofDocument doc = .error reason ∧ BreaksOff reason) := by
  rw [ofDocument_eq]
  cases hentries : entriesOf (underThresholds doc) with
  | error reason =>
    have hnone : ¬ HoldsEntries (underThresholds doc) := fun hholds ↦ by
      obtain ⟨es, hes⟩ := (exists_entriesOf_iff _).mpr hholds
      rw [hentries] at hes
      cases hes
    have hreason := entriesOf_error hentries
    exact ⟨iff_of_false hreason.not_endsProperly fun hboth ↦ hnone hboth.1,
      Or.inr ⟨reason, rfl, hreason⟩⟩
  | ok inTable =>
    show (EndsProperly (validateParts (partsOf doc inTable)) ↔ _) ∧
      (EndsProperly (validateParts (partsOf doc inTable)) ∨ _)
    have hholds : HoldsEntries (underThresholds doc) :=
      (exists_entriesOf_iff _).mp ⟨inTable, hentries⟩
    have hsame := underDetectors_partsOf doc inTable
    by_cases hnames : NamesUsable (underDetectors doc)
    · have hproper := validateParts_endsProperly (hsame.symm ▸ hnames)
      exact ⟨iff_of_true hproper ⟨hholds, hnames⟩, Or.inl hproper⟩
    · obtain ⟨reason, hbreaks, hreason⟩ := validateParts_breaksOff (hsame.symm ▸ hnames)
      have hnot : ¬ EndsProperly (validateParts (partsOf doc inTable)) :=
        hbreaks.symm ▸ hreason.not_endsProperly
      exact ⟨iff_of_false hnot fun hboth ↦ hnames hboth.2, Or.inr ⟨reason, hbreaks, hreason⟩⟩

/-- A number for the thresholds, a text of three letters for a pair of them and a list for the name
of a detector each break off the reading, so not every document ends properly. -/
theorem improper_endings :
    ofDocument [("thresholds", .whole 5)] = .error .unusable ∧
    ofDocument [("thresholds", .list [.text "abc"])] = .error .unevenPair ∧
    ofDocument [("enabled_detectors", .list [.list [.text "LongMethod"]])] = .error .unusable ∧
    ¬ ∀ doc, EndsProperly (ofDocument doc) := by
  refine ⟨rfl, rfl, rfl, fun hall ↦ ?_⟩
  rcases hall [("thresholds", .whole 5)] with ⟨s, hs⟩ | ⟨problems, hproblems⟩
  · cases hs
  · cases hproblems

end CodeSmells.Config
