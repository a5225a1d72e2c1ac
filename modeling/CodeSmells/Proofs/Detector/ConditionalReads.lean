import CodeSmells.Proofs.Detector.ClumpGroups
import Mathlib.Algebra.BigOperators.Fin
import Mathlib.Algebra.BigOperators.Group.Finset.Sigma

/-!
# Fields that are read under conditions only

A read of a field is a code line of a method that mentions the field and does not assign to it. The
detector walks through the lines of each method with the lines before at hand and counts; here the
reads are the set of their places (`reads`), and what is counted are the reads, those that check for
null and those that are conditional, each of which heads a conditional or stands in the body of one
(`usage_eq_card`). Two of these counts are equal exactly if every read is conditional, which is how
`fields_reported_exactly` tells from the lines which fields are reported.
-/

set_option autoImplicit false
set_option relaxedAutoImplicit false

namespace CodeSmells.TemporaryField

/-! ### Lines -/

/-- The line mentions a field. -/
def mentions (name : String) (line : SourceLine) : Bool :=
  (Text.fieldMention name.toList fun _ ↦ true).occurs line.content

/-- The line is code, mentions a field and does not assign to it. -/
def isRead (name : String) (line : SourceLine) : Bool :=
  line.isCode && mentions name line && !isAssignmentTo line.content name.toList

/-- The line at an index is a read of a field. -/
def ReadAt (name : String) (lines : List SourceLine) (j : ℕ) : Prop :=
  ∃ line ∈ lines[j]?, isRead name line = true

/-- The line at an index checks for null. -/
def ChecksNullAt (lines : List SourceLine) (j : ℕ) : Prop :=
  ∃ line ∈ lines[j]?, checksNull line.content = true

/-- The line at an index heads a conditional or stands in the body of one. -/
def ConditionalAt (lines : List SourceLine) (j : ℕ) : Prop :=
  (∃ line ∈ lines[j]?, isConditionalHeader line.content = true) ∨
    enclosingConditional lines j = true

section Decidable

variable (name : String) (lines : List SourceLine) (j : ℕ)

instance : Decidable (ReadAt name lines j) :=
  inferInstanceAs (Decidable (∃ line ∈ lines[j]?, _))

instance : Decidable (ChecksNullAt lines j) :=
  inferInstanceAs (Decidable (∃ line ∈ lines[j]?, _))

instance : Decidable (ConditionalAt lines j) :=
  inferInstanceAs (Decidable ((∃ line ∈ lines[j]?, _) ∨ _))

end Decidable

/-- The use of a field in the line at an index. -/
def useAt (name : String) (lines : List SourceLine) (j : ℕ) : Option LineUse :=
  if ∃ line ∈ lines[j]?, (line.isCode && mentions name line) = true then
    some ⟨ReadAt name lines j, ReadAt name lines j ∧ ChecksNullAt lines j,
      ReadAt name lines j ∧ ConditionalAt lines j⟩
  else none

theorem useAt_eq {name : String} {lines : List SourceLine} {j : ℕ} {line : SourceLine}
    (hline : lines[j]? = some line) :
    useAt name lines j =
      if line.isCode && mentions name line then
        let reads := !isAssignmentTo line.content name.toList
        some ⟨reads, reads && checksNull line.content,
          reads && (isConditionalHeader line.content || enclosingConditional lines j)⟩
      else none := by
  simp only [useAt, ReadAt, ChecksNullAt, ConditionalAt, hline, Option.mem_some_iff,
    exists_eq_left', isRead]
  split
  · next hused => simp only [hused, Bool.true_and, Bool.decide_and, Bool.decide_or,
      Bool.decide_eq_true]
  · rfl

/-- A walk through the remaining lines of a body finds the uses at their indices. -/
theorem usesFrom_eq (name : String) (earlier later : List SourceLine) :
    usesFrom name.toList earlier later =
      (List.range later.length).filterMap fun j ↦
        useAt name (earlier.reverse ++ later) (earlier.length + j) := by
  induction later generalizing earlier with
  | nil => rfl
  | cons line later ih =>
    have hline : (earlier.reverse ++ line :: later)[earlier.length]? = some line := by
      rw [← List.length_reverse, List.getElem?_append_right le_rfl, Nat.sub_self]
      rfl
    have hwhole : (line :: earlier).reverse ++ later = earlier.reverse ++ line :: later := by
      rw [List.reverse_cons, List.append_assoc, List.singleton_append]
    have henclosing : enclosingConditional (earlier.reverse ++ line :: later) earlier.length =
        insideConditional line.indent earlier := by
      rw [enclosingConditional, hline, ← List.length_reverse, List.take_left, List.reverse_reverse]
    -- The rest is walked with this line among the earlier ones: the same body, one index further.
    have hrest := ih (line :: earlier)
    simp only [hwhole, List.length_cons, Nat.add_right_comm _ 1] at hrest
    rw [usesFrom, hrest, List.length_cons, List.range_succ_eq_map, List.filterMap_cons,
      List.filterMap_map]
    simp only [Function.comp_def, Nat.succ_eq_add_one, Nat.add_zero, ← Nat.add_assoc]
    rw [useAt_eq hline, henclosing, mentions]
    split <;> rfl

/-- What is counted among the uses in a method is counted among the indices of its lines. -/
theorem countP_uses (name : String) (m : Method) (q : LineUse → Bool) :
    (uses name m).countP q =
      ({j ∈ Finset.range m.lines.length | (useAt name m.lines j).any q} : Finset ℕ).card := by
  have hindices : uses name m = (List.range m.lines.length).filterMap (useAt name m.lines) := by
    rw [uses, usesFrom_eq]
    simp only [List.reverse_nil, List.nil_append, List.length_nil, Nat.zero_add]
  rw [hindices, List.countP_filterMap, List.countP_eq_length_filter]
  refine congrArg List.length (List.filter_congr fun j _ ↦ ?_)
  cases hj : useAt name m.lines j <;> simp [hj]

/-- A use that is no read checks nothing and stands under no condition. -/
theorem any_useAt (name : String) (lines : List SourceLine) (j : ℕ) {q : LineUse → Bool}
    (hq : q ⟨false, false, false⟩ = false) :
    (useAt name lines j).any q = true ↔
      ReadAt name lines j ∧ q ⟨true, ChecksNullAt lines j, ConditionalAt lines j⟩ = true := by
  by_cases hread : ReadAt name lines j
  · have hmentioned : ∃ line ∈ lines[j]?, (line.isCode && mentions name line) = true := by
      obtain ⟨line, hline, hread⟩ := hread
      exact ⟨line, hline, (Bool.and_eq_true_iff.mp hread).1⟩
    simp only [useAt, if_pos hmentioned, hread, true_and, decide_true, Option.any_some]
  · rw [useAt]
    split
    · simp only [hread, false_and, decide_false, Option.any_some, hq, Bool.false_eq_true]
    · simp only [hread, false_and, Option.any_none, Bool.false_eq_true]

/-! ### Places -/

/-- The lines of the method at an index. -/
def body (k : Class) (i : ℕ) : List SourceLine :=
  k.methods[i]?.elim [] (·.lines)

/-- The places in a class, each the index of a method and that of a line in it. -/
def places (k : Class) : Finset ((_ : ℕ) × ℕ) :=
  (Finset.range k.methods.length).sigma fun i ↦ Finset.range (body k i).length

/-- The places of the reads of a field. -/
def reads (k : Class) (name : String) : Finset ((_ : ℕ) × ℕ) :=
  {e ∈ places k | ReadAt name (body k e.1) e.2}

/-- Whatever is counted in each method by the indices of its lines is counted in the class by
places. -/
theorem card_places (k : Class) (p : List SourceLine → ℕ → Prop)
    [∀ lines j, Decidable (p lines j)] :
    ({e ∈ places k | p (body k e.1) e.2} : Finset ((_ : ℕ) × ℕ)).card =
      (k.methods.map fun m ↦
        ({j ∈ Finset.range m.lines.length | p m.lines j} : Finset ℕ).card).sum := by
  rw [← Fin.sum_univ_fun_getElem, Finset.card_filter, places, Finset.sum_sigma, Finset.sum_range]
  refine Finset.sum_congr rfl fun i _ ↦ ?_
  have hbody : body k i = k.methods[i].lines := by
    rw [body, List.getElem?_eq_getElem i.isLt]
    rfl
  rw [Finset.card_filter]
  simp only [hbody, Fin.getElem_fin]

/-- The reads of a field that check for null. -/
def nullChecks (k : Class) (name : String) : Finset ((_ : ℕ) × ℕ) :=
  {e ∈ reads k name | ChecksNullAt (body k e.1) e.2}

/-- The reads of a field that are conditional. -/
def conditionalReads (k : Class) (name : String) : Finset ((_ : ℕ) × ℕ) :=
  {e ∈ reads k name | ConditionalAt (body k e.1) e.2}

theorem nullChecks_subset (k : Class) (name : String) : nullChecks k name ⊆ reads k name :=
  Finset.filter_subset _ _

theorem conditionalReads_subset (k : Class) (name : String) :
    conditionalReads k name ⊆ reads k name :=
  Finset.filter_subset _ _

/-- What is counted among the uses in a class, other than assignments, is counted among its reads. -/
theorem countP_usage (k : Class) (name : String) {q : LineUse → Bool}
    (hq : q ⟨false, false, false⟩ = false) :
    (k.methods.flatMap (uses name)).countP q = ({e ∈ reads k name |
      q ⟨true, ChecksNullAt (body k e.1) e.2, ConditionalAt (body k e.1) e.2⟩ = true} :
        Finset ((_ : ℕ) × ℕ)).card := by
  rw [List.countP_flatMap, reads, Finset.filter_filter]
  simp only [← any_useAt _ _ _ hq]
  rw [card_places k fun lines j ↦ (useAt name lines j).any q = true]
  exact congrArg List.sum (List.map_congr_left fun m _ ↦ countP_uses name m q)

theorem usage_eq_card (k : Class) (name : String) :
    (usage k name).reads = (reads k name).card ∧
    (usage k name).nullChecks = (nullChecks k name).card ∧
    (usage k name).conditionalReads = (conditionalReads k name).card := by
  refine ⟨(countP_usage k name rfl).trans ?_, (countP_usage k name rfl).trans ?_,
    (countP_usage k name rfl).trans ?_⟩
  · simp only [Finset.filter_true]
  · simp only [decide_eq_true_eq, nullChecks]
  · simp only [decide_eq_true_eq, conditionalReads]

/-! ### Which fields are reported -/

/-- A field is read, more of its reads check for null than the limit allows, and all of them are
conditional. -/
def Temporary (k : Class) (limit : Quantity) (name : String) : Prop :=
  (reads k name).Nonempty ∧ limit.lt (.ofNat (nullChecks k name).card) = true ∧
    ∀ e ∈ reads k name, ConditionalAt (body k e.1) e.2

instance (k : Class) (limit : Quantity) (name : String) : Decidable (Temporary k limit name) :=
  inferInstanceAs (Decidable (_ ∧ _))

/-- A field in a report. -/
def Usage.toValue (u : Usage) : Value :=
  .table [
    ("field", .text u.field),
    ("null_checks", .count u.nullChecks),
    ("usages", .count u.reads),
    ("conditional_usages", .count u.conditionalReads),
    ("methods", .texts u.methods)]

/-- The two counts are equal exactly if every read is conditional. -/
theorem conditionalOnly_usage_iff (k : Class) (name : String) :
    (usage k name).conditionalOnly = true ↔
      (reads k name).Nonempty ∧ ∀ e ∈ reads k name, ConditionalAt (body k e.1) e.2 := by
  obtain ⟨hreads, -, hconditional⟩ := usage_eq_card k name
  rw [Usage.conditionalOnly, hreads, hconditional, Bool.and_eq_true, decide_eq_true_iff,
    beq_iff_eq, conditionalReads, Finset.card_filter_eq_iff, gt_iff_lt, Finset.card_pos]

theorem temporary_iff {k : Class} {limit : Quantity} {name : String} :
    Temporary k limit name ↔ (usage k name).conditionalOnly = true ∧
      limit.lt (.ofNat (usage k name).nullChecks) = true := by
  rw [Temporary, conditionalOnly_usage_iff, (usage_eq_card k name).2.1, and_right_comm, and_assoc]

/-- The thresholds ask for reads under conditions only. -/
def Strict (t : Thresholds) : Prop :=
  ∃ v, t.get "require_conditional_usage" = .ok v ∧ v.isTruthy = true

section Limits

variable {k : Class} {given : Entries} {limit : Quantity}
  (hlimit : Thresholds.HasLimit ⟨given, detector.defaults⟩ "max_null_checks" limit)
  (hstrict : Strict ⟨given, detector.defaults⟩)

include hlimit hstrict

theorem isTemporary_usage (name : String) :
    isTemporary ⟨given, detector.defaults⟩ (usage k name) =
      .ok (decide (Temporary k limit name)) := by
  obtain ⟨v, hv, habove⟩ := hlimit.above_eq
  obtain ⟨w, hw, htruthy⟩ := hstrict
  simp only [isTemporary, hv, hw, bind, Except.bind, htruthy, Bool.not_true, Bool.or_false, habove,
    temporary_iff, Bool.decide_and, Bool.decide_eq_true]
  cases (usage k name).conditionalOnly <;> rfl

/-- Under a limit that is a number there is a result, which lists the fields that are temporary. -/
theorem exists_result (p : Project) (path : Option String) :
    ∃ r, detector.detect (.ofClass k p path) given = .ok (some r) ∧
      r.detail? "temporary_fields" = some (.row
        ((k.fieldNames.filter fun name ↦ Temporary k limit name).map fun name ↦
          (usage k name).toValue)) := by
  have hkeep : ∀ u ∈ k.fieldNames.map (usage k), isTemporary ⟨given, detector.defaults⟩ u =
      .ok (decide (Temporary k limit u.field)) := by
    intro u hu
    obtain ⟨name, -, rfl⟩ := List.mem_map.mp hu
    exact isTemporary_usage hlimit hstrict name
  have hfindings : findings k ⟨given, detector.defaults⟩ =
      .ok ⟨(k.fieldNames.filter fun name ↦ Temporary k limit name).map (usage k)⟩ := by
    rw [findings, filterM_eq_ok hkeep, List.filter_map]
    rfl
  have hverdict : detector.evaluate (.ofClass k p path) ⟨given, detector.defaults⟩ = .ok (some
      (let f : Findings := ⟨(k.fieldNames.filter fun name ↦ Temporary k limit name).map (usage k)⟩
      ⟨!f.fields.isEmpty, f.severity, Scope.location (.ofClass k p path),
        f.toValue ⟨given, detector.defaults⟩⟩)) := by
    simp only [detector] at hfindings ⊢
    rw [hfindings]
    rfl
  refine ⟨_, Detector.detect_eq_some_iff.mpr ⟨rfl, _, hverdict, rfl⟩, ?_⟩
  rw [← Function.comp_def Usage.toValue, ← List.map_map]
  rfl

end Limits

/-- A result lists a field. -/
def Reports (r : Result) (name : String) : Prop :=
  ∃ rows, r.detail? "temporary_fields" = some (.row rows) ∧ ∃ entries, .table entries ∈ rows ∧
    Entries.get? "field" entries = some (.text name)

theorem reports_iff_of_row {r : Result} {k : Class} {names : List String} {name : String}
    (h : r.detail? "temporary_fields" =
      some (.row (names.map fun name ↦ (usage k name).toValue))) :
    Reports r name ↔ name ∈ names := by
  constructor
  · rintro ⟨rows, hrows, entries, hentries, hfield⟩
    cases h.symm.trans hrows
    obtain ⟨listed, hlisted, hentries⟩ := List.mem_map.mp hentries
    cases hentries
    cases hfield
    exact hlisted
  · intro hname
    exact ⟨_, h, _, List.mem_map_of_mem hname, rfl⟩

/-! ### Changes to a class -/

/-- A class with a further line in one of its methods. -/
def insertLine (k : Class) (i j : ℕ) (line : SourceLine) : Class :=
  { k with methods := k.methods.modify i fun m ↦ { m with lines := m.lines.insertIdx j line } }

theorem body_insertLine {k : Class} {i : ℕ} {m : Method} (hm : k.methods[i]? = some m) (j : ℕ)
    (line : SourceLine) : body (insertLine k i j line) i = m.lines.insertIdx j line := by
  rw [body, insertLine, List.getElem?_modify_eq, hm]
  rfl

/-- A read under no condition keeps a field from being temporary. -/
theorem not_temporary_insertLine {k : Class} {i : ℕ} {m : Method} (hm : k.methods[i]? = some m)
    {j : ℕ} (hj : j ≤ m.lines.length) {line : SourceLine} {name : String}
    (hread : isRead name line = true) (hheader : isConditionalHeader line.content = false)
    (houtside : enclosingConditional (m.lines.insertIdx j line) j = false) (limit : Quantity) :
    ¬Temporary (insertLine k i j line) limit name := by
  rintro ⟨-, -, hall⟩
  have hbody := body_insertLine hm j line
  have hline : (m.lines.insertIdx j line)[j]? = some line := by
    rw [List.getElem?_insertIdx_self, if_pos hj]
  have hplace : (⟨i, j⟩ : (_ : ℕ) × ℕ) ∈ reads (insertLine k i j line) name := by
    rw [reads, Finset.mem_filter, places, Finset.mem_sigma, Finset.mem_range, Finset.mem_range,
      hbody, insertLine, List.length_modify]
    exact ⟨⟨(List.getElem?_eq_some_iff.mp hm).1, (List.getElem?_eq_some_iff.mp hline).1⟩, line,
      hline, hread⟩
  rcases hall _ hplace with ⟨other, hother, hconditional⟩ | hinside
  · rw [hbody, hline] at hother
    cases hother
    exact Bool.false_ne_true (hheader.symm.trans hconditional)
  · rw [hbody] at hinside
    exact Bool.false_ne_true (houtside.symm.trans hinside)

/-- Every line of a method that mentions a field, and is code, assigns to it. -/
def OnlyAssigns (name : String) (m : Method) : Prop :=
  ∀ line ∈ m.lines, line.isCode = true → mentions name line = true →
    isAssignmentTo line.content name.toList = true

/-- Nothing that is counted among reads is found in a method that only assigns. -/
theorem OnlyAssigns.filter_uses {name : String} {m : Method} (h : OnlyAssigns name m)
    {q : LineUse → Bool} (hq : q ⟨false, false, false⟩ = false) :
    (uses name m).filter q = [] := by
  rw [← List.length_eq_zero_iff, ← List.countP_eq_length_filter, countP_uses, Finset.card_eq_zero,
    Finset.filter_eq_empty_iff]
  intro j _ hany
  obtain ⟨⟨line, hline, hread⟩, -⟩ := (any_useAt _ _ _ hq).mp hany
  simp only [isRead, Bool.and_eq_true, Bool.not_eq_true'] at hread
  have hassigned := h line (List.mem_of_getElem? hline) hread.1.1 hread.1.2
  exact Bool.false_ne_true (hread.2.symm.trans hassigned)

/-- Methods that only assign to a field add nothing to what is counted of it. -/
theorem countP_uses_gainsOnly {name : String} {ms ms' : List Method}
    (h : GainsOnly (OnlyAssigns name) ms ms') {q : LineUse → Bool}
    (hq : q ⟨false, false, false⟩ = false) :
    (ms'.flatMap (uses name)).countP q = (ms.flatMap (uses name)).countP q := by
  rw [List.countP_eq_length_filter, List.countP_eq_length_filter, List.filter_flatMap,
    List.filter_flatMap, h.flatMap_eq fun m honly ↦ honly.filter_uses hq]

theorem temporary_gainsOnly {k k' : Class} {name : String}
    (h : GainsOnly (OnlyAssigns name) k.methods k'.methods) {limit : Quantity} :
    Temporary k' limit name ↔ Temporary k limit name := by
  have hreads : (usage k' name).reads = (usage k name).reads := countP_uses_gainsOnly h rfl
  have hnullChecks : (usage k' name).nullChecks = (usage k name).nullChecks :=
    countP_uses_gainsOnly h rfl
  have hconditional : (usage k' name).conditionalReads = (usage k name).conditionalReads :=
    countP_uses_gainsOnly h rfl
  rw [temporary_iff, temporary_iff, Usage.conditionalOnly, Usage.conditionalOnly, hreads,
    hnullChecks, hconditional]

/-- Which fields are reported, whatever the class. The counts of a field are those of its reads, of
the reads that check for null and of the reads that are conditional, so that the latter two do not
exceed the first. Under a limit that is a number, where reads under conditions only are asked for,
every class has a result, and a field is reported exactly if it is read, more of its reads check for
null than the limit allows, and every read heads a conditional or stands in the body of one. So a
read that does neither, put at any place into any method, takes the field out of the report; and
methods that only assign to the field, wherever they are added, leave it in the report or out of it
as before. -/
theorem fields_reported_exactly :
    (∀ (k : Class) (name : String),
      (usage k name).reads = (reads k name).card ∧
      (usage k name).nullChecks = (nullChecks k name).card ∧
      (usage k name).conditionalReads = (conditionalReads k name).card ∧
      (usage k name).nullChecks ≤ (usage k name).reads ∧
      (usage k name).conditionalReads ≤ (usage k name).reads) ∧
    ∀ (given : Entries) (limit : Quantity),
      Thresholds.HasLimit ⟨given, detector.defaults⟩ "max_null_checks" limit →
      Strict ⟨given, detector.defaults⟩ →
      ∀ (k : Class) (p : Project) (path : Option String),
        ∃ r, detector.detect (.ofClass k p path) given = .ok (some r) ∧
          (∀ name, Reports r name ↔ name ∈ k.fieldNames ∧ (reads k name).Nonempty ∧
            limit.lt (.ofNat (nullChecks k name).card) = true ∧
            ∀ e ∈ reads k name, ConditionalAt (body k e.1) e.2) ∧
          (∀ (name : String) (i j : ℕ) (m : Method) (line : SourceLine),
            k.methods[i]? = some m → j ≤ m.lines.length → isRead name line = true →
            isConditionalHeader line.content = false →
            enclosingConditional (m.lines.insertIdx j line) j = false →
            ∃ r', detector.detect (.ofClass (insertLine k i j line) p path) given =
              .ok (some r') ∧ ¬Reports r' name) ∧
          ∀ (name : String) (k' : Class), k'.fieldNames = k.fieldNames →
            GainsOnly (OnlyAssigns name) k.methods k'.methods →
            ∃ r', detector.detect (.ofClass k' p path) given = .ok (some r') ∧
              (Reports r' name ↔ Reports r name) := by
  refine ⟨fun k name ↦ ?_, fun given limit hlimit hstrict k p path ↦ ?_⟩
  · obtain ⟨hreads, hnullChecks, hconditional⟩ := usage_eq_card k name
    refine ⟨hreads, hnullChecks, hconditional, ?_, ?_⟩
    · rw [hreads, hnullChecks]
      exact Finset.card_le_card (nullChecks_subset k name)
    · rw [hreads, hconditional]
      exact Finset.card_le_card (conditionalReads_subset k name)
  · have hresult (k : Class) : ∃ r, detector.detect (.ofClass k p path) given = .ok (some r) ∧
        ∀ name, Reports r name ↔ name ∈ k.fieldNames ∧ Temporary k limit name := by
      obtain ⟨r, hr, hlisted⟩ := exists_result (k := k) hlimit hstrict p path
      refine ⟨r, hr, fun name ↦ ?_⟩
      rw [reports_iff_of_row hlisted, List.mem_filter, decide_eq_true_iff]
    obtain ⟨r, hr, hreports⟩ := hresult k
    refine ⟨r, hr, hreports, fun name i j m line hm hj hread hheader houtside ↦ ?_,
      fun name k' hfields h ↦ ?_⟩
    · obtain ⟨r', hr', hreports'⟩ := hresult (insertLine k i j line)
      refine ⟨r', hr', fun hreported ↦ ?_⟩
      exact not_temporary_insertLine hm hj hread hheader houtside limit
        ((hreports' name).mp hreported).2
    · obtain ⟨r', hr', hreports'⟩ := hresult k'
      refine ⟨r', hr', ?_⟩
      rw [hreports', hreports, hfields, temporary_gainsOnly h]

/-- A class whose method reads a field three times, twice to check for null. -/
def shielded : Class :=
  { (default : Class) with
    name := "Shielded"
    fields := ["shield"]
    methods := [{ (default : Method) with
      name := "hit"
      lines := [⟨"if shield != null:", none⟩, ⟨"\tshield.drop()", none⟩,
        ⟨"while shield == null:", none⟩, ⟨"\tpass", none⟩] }] }

/-- A method that assigns to the field. -/
def arming : Method :=
  { (default : Method) with name := "arm", lines := [⟨"shield = forge()", none⟩] }

/-- A limit of one. -/
def atMostOnce : Entries :=
  [("max_null_checks", .whole 1)]

/-- The field is reported, as all three reads are conditional; it is reported still with the method
that assigns to it, and no more with a read at the start of the first method. -/
theorem fields_reported_exactly_shielded :
    Thresholds.HasLimit ⟨atMostOnce, detector.defaults⟩ "max_null_checks" (.ofNat 1) ∧
    Strict ⟨atMostOnce, detector.defaults⟩ ∧
    (∃ r, detector.detect (.ofClass shielded default none) atMostOnce = .ok (some r) ∧
      Reports r "shield") ∧
    (∃ r, detector.detect (.ofClass (insertLine shielded 0 0 ⟨"shield.raise()", none⟩) default none)
      atMostOnce = .ok (some r) ∧ ¬Reports r "shield") ∧
    ∃ r, detector.detect (.ofClass { shielded with methods := arming :: shielded.methods } default
      none) atMostOnce = .ok (some r) ∧ Reports r "shield" := by
  have hlimit :
      Thresholds.HasLimit ⟨atMostOnce, detector.defaults⟩ "max_null_checks" (.ofNat 1) :=
    ⟨.whole 1, rfl, rfl⟩
  have hstrict : Strict ⟨atMostOnce, detector.defaults⟩ := ⟨.flag true, rfl, rfl⟩
  obtain ⟨r, hr, hreports, hread, hassigned⟩ :=
    fields_reported_exactly.2 atMostOnce _ hlimit hstrict shielded default none
  have hreported : Reports r "shield" := (hreports "shield").mpr (by decide +kernel)
  have honly : OnlyAssigns "shield" arming := by
    intro line hline
    rw [List.mem_singleton.mp hline]
    decide +kernel
  obtain ⟨r', hr', hsame⟩ := hassigned "shield" { shielded with methods := arming :: _ } rfl
    (.gain honly (.keep _ .nil))
  refine ⟨hlimit, hstrict, ⟨r, hr, hreported⟩, ?_, r', hr', hsame.mpr hreported⟩
  exact hread "shield" 0 0 _ ⟨"shield.raise()", none⟩ rfl (Nat.zero_le _) (by decide +kernel)
    (by decide +kernel) (by decide +kernel)

end CodeSmells.TemporaryField
