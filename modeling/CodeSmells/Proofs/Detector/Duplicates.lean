import CodeSmells.Proofs.Config.RoundTrip
import CodeSmells.Proofs.Detector.ClumpGroups
import CodeSmells.Proofs.Metric.Similarity
import CodeSmells.Proofs.Text.Blank

/-!
# Which bodies are duplicates

Two bodies are as alike as the number of distinct lines that they share is large against the number
of lines of the longer one. A body that repeats a line is therefore less alike to its own copy than
one that does not: `identical_bodies_missed` has two equal bodies of five lines that are no
duplicates. `identical_bodies_counted_iff` says what holds instead, for every project and all
settings that are accepted. Two methods with equal lines, long enough to be looked at, are counted as
a pair exactly when the share of distinct lines among their lines reaches the limit, so always when
no line is repeated; and what is counted is detected.

Methods may agree in everything, their names included, and so a pair is told by the positions of its
methods in the project. `counted` goes through all such pairs, and `findings_eq` shows that the
duplicates that are found are those of the counted pairs.
-/

set_option autoImplicit false
set_option relaxedAutoImplicit false

namespace CodeSmells

/-- The pairs of the entries that are kept are the pairs of kept entries. -/
theorem pairs_filter {α : Type} (keep : α → Bool) (xs : List α) :
    pairs (xs.filter keep) = (pairs xs).filter fun pair ↦ keep pair.1 && keep pair.2 := by
  induction xs with
  | nil => rfl
  | cons x xs ih =>
    rw [pairs, List.filter_append, List.filter_map, ← ih]
    by_cases hx : keep x = true
    · rw [List.filter_cons_of_pos hx, pairs]
      simp [Function.comp_def, hx]
    · rw [List.filter_cons_of_neg hx]
      simp [Function.comp_def, hx]

theorem map_getD_range {α : Type} (xs : List α) (fallback : α) :
    (List.range xs.length).map (xs.getD · fallback) = xs := by
  refine List.ext_getElem (by simp) fun i hi hi' ↦ ?_
  simp [hi']

/-- The lines of a method without the blanks around them. -/
def Method.contents (m : Method) : List (List Char) :=
  m.lines.map SourceLine.content

theorem Method.length_contents (m : Method) : m.contents.length = m.loc :=
  List.length_map _

/-- How many of the lines of a method are distinct, per line. -/
def Method.distinctShare (m : Method) : ℚ :=
  m.contents.toFinset.card / m.loc

theorem Value.quantity?_of_number? {v : Value} {x : Quantity} (h : v.number? = some x) :
    v.quantity? = some x := by
  cases v with
  | whole n => exact h
  | real y => exact h
  | _ => cases h

namespace DuplicateCode

/-! ### Counted pairs -/

/-- The pair of bodies at two positions. -/
def duplicateAt (p : Project) (position : ℕ × ℕ) : Duplicate :=
  let first := (blocks p).getD position.1 default
  let second := (blocks p).getD position.2 default
  ⟨first, second, blockSimilarity first.lines second.lines⟩

/-- A pair is counted when both bodies are long enough, and they are alike at all and enough. -/
def Duplicate.counts (minLines minSimilarity : Quantity) (d : Duplicate) : Bool :=
  minLines.le (.ofNat d.first.lines.length) && minLines.le (.ofNat d.second.lines.length) &&
    (Quantity.lt (.finite 0) d.similarity && minSimilarity.le d.similarity)

/-- The positions of the pairs that are counted. -/
def counted (p : Project) (minLines minSimilarity : Quantity) : List (ℕ × ℕ) :=
  (pairs (List.range (blocks p).length)).filter fun position ↦
    (duplicateAt p position).counts minLines minSimilarity

theorem mem_counted_iff {p : Project} {minLines minSimilarity : Quantity} {i j : ℕ} :
    (i, j) ∈ counted p minLines minSimilarity ↔
      i < j ∧ i < (blocks p).length ∧ j < (blocks p).length ∧
        (duplicateAt p (i, j)).counts minLines minSimilarity = true := by
  rw [counted, List.mem_filter, mem_pairs_iff List.pairwise_lt_range, List.mem_range,
    List.mem_range, and_assoc, and_assoc]

/-- Under limits that are numbers, the duplicates of a project are those of the counted pairs. -/
theorem findings_eq {p : Project} {t : Thresholds} {minLines minSimilarity : Quantity}
    (hlines : t.HasLimit "min_lines" minLines)
    (hsimilarity : t.HasLimit "min_similarity" minSimilarity) :
    findings p t = .ok ⟨(counted p minLines minSimilarity).map (duplicateAt p)⟩ := by
  obtain ⟨v, hv, hatLeast⟩ := hlines.atLeast_eq
  obtain ⟨w, hw, hatLeast'⟩ := hsimilarity.atLeast_eq
  have hlong : (blocks p).filterM (fun b ↦ Measured.atLeast b.lines.length v) =
      .ok ((blocks p).filter fun b ↦ minLines.le (.ofNat b.lines.length)) :=
    filterM_eq_ok fun b _ ↦ hatLeast _
  have halike : ∀ ds : List Duplicate, ds.filterM (isDuplicate w) =
      .ok (ds.filter fun d ↦ Quantity.lt (.finite 0) d.similarity &&
        minSimilarity.le d.similarity) := by
    refine fun ds ↦ filterM_eq_ok fun d _ ↦ ?_
    rw [isDuplicate, hatLeast']
    cases Quantity.lt (.finite 0) d.similarity <;> rfl
  have hpairs : pairs (blocks p) = (pairs (List.range (blocks p).length)).map
      (Prod.map ((blocks p).getD · default) ((blocks p).getD · default)) := by
    rw [← pairs_map, map_getD_range]
  rw [findings, hv, hw]
  simp only [bind, Except.bind, hlong, halike, pure, Except.pure]
  rw [pairs_filter, hpairs, List.filter_map, List.filter_filter, List.filter_map, List.map_map]
  congr 3
  exact List.filter_congr fun position _ ↦ Bool.and_comm _ _

/-- Under limits that are numbers there is a result, which counts the counted pairs and says that
the smell is detected when there are any. -/
theorem exists_result {p : Project} {given : Entries} {minLines minSimilarity : Quantity}
    (hlines : Thresholds.HasLimit ⟨given, detector.defaults⟩ "min_lines" minLines)
    (hsimilarity : Thresholds.HasLimit ⟨given, detector.defaults⟩ "min_similarity" minSimilarity) :
    ∃ r, detector.detect (.ofProject p) given = .ok (some r) ∧
      r.detail? "duplicate_count" =
        some (.count (counted p minLines minSimilarity).length) ∧
      (r.detected = true ↔ counted p minLines minSimilarity ≠ []) := by
  have hfindings := findings_eq (p := p) hlines hsimilarity
  have hverdict : detector.evaluate (.ofProject p) ⟨given, detector.defaults⟩ = .ok (some
      (let f : Findings := ⟨(counted p minLines minSimilarity).map (duplicateAt p)⟩
      ⟨!f.duplicates.isEmpty, f.severity, Scope.location (.ofProject p),
        f.toValue ⟨given, detector.defaults⟩⟩)) := by
    simp only [detector] at hfindings ⊢
    rw [hfindings]
    rfl
  refine ⟨_, Detector.detect_eq_some_iff.mpr ⟨rfl, _, hverdict, rfl⟩, ?_, ?_⟩
  · rw [← List.length_map (duplicateAt p)]
    rfl
  · simp only [Verdict.result, Bool.not_eq_true', List.isEmpty_eq_false_iff, ne_eq,
      List.map_eq_nil_iff]

/-! ### Equal bodies -/

/-- A block holds the contents of the lines of its method. -/
theorem lines_blocks (p : Project) : (blocks p).map (·.lines) =
    (p.classes.flatMap (·.methods)).map fun m ↦ m.contents.map String.ofList := by
  simp only [blocks, List.map_flatMap, List.map_map, Method.contents, Function.comp_def]

/-- The contents of the lines of a method have no blanks around them. -/
theorem card_distinctLines_contents (m : Method) :
    (distinctLines (m.contents.map String.ofList)).card = m.contents.toFinset.card := by
  have htrimmed : (m.contents.map String.ofList).map Text.trimmed =
      m.contents.map String.ofList := by
    rw [Method.contents, List.map_map, List.map_map, List.map_map]
    refine List.map_congr_left fun line _ ↦ ?_
    simp only [Function.comp_apply, Text.trimmed, String.toList_ofList, SourceLine.content,
      Text.ignoresBlanks_trim.apply_trim]
  have himage : (m.contents.map String.ofList).toFinset =
      m.contents.toFinset.image String.ofList := by
    ext line
    simp
  rw [distinctLines, htrimmed, himage,
    Finset.card_image_of_injective _ fun _ _ ↦ String.ofList_injective]

/-- A body that is not empty is as alike to its copy as the share of its distinct lines is. -/
theorem blockSimilarity_self {m : Method} (hne : m.lines ≠ []) :
    blockSimilarity (m.contents.map String.ofList) (m.contents.map String.ofList) =
      Quantity.ofRat m.distinctShare := by
  have hlength : (m.contents.map String.ofList).length = m.loc := by
    rw [List.length_map, m.length_contents]
  have hloc : m.loc ≠ 0 := by simpa [Method.loc] using hne
  rw [blockSimilarity, similarity_eq, Finset.inter_self, max_self, hlength, if_neg hloc,
    card_distinctLines_contents, Method.distinctShare]

/-- Two equal bodies that are long enough are counted as a pair exactly when the share of distinct
lines counts for something and reaches the limit. -/
theorem mem_counted_of_contents {p : Project} {minLines : ℕ} {minSimilarity : Quantity} {i j : ℕ}
    {m m' : Method} (hij : i < j) (hi : (p.classes.flatMap (·.methods))[i]? = some m)
    (hj : (p.classes.flatMap (·.methods))[j]? = some m') (hsame : m'.contents = m.contents)
    (hlong : max 1 minLines ≤ m.loc) :
    (i, j) ∈ counted p (.ofNat minLines) minSimilarity ↔
      Quantity.lt (.finite 0) (.ofRat m.distinctShare) = true ∧
        minSimilarity.le (.ofRat m.distinctShare) = true := by
  have hblock : ∀ {k : ℕ} {n : Method}, (p.classes.flatMap (·.methods))[k]? = some n →
      k < (blocks p).length ∧
        ((blocks p).getD k default).lines = n.contents.map String.ofList := by
    intro k n hk
    have hlines : ((blocks p).map (·.lines))[k]? = some (n.contents.map String.ofList) := by
      rw [lines_blocks, List.getElem?_map, hk, Option.map_some]
    rw [List.getElem?_map, Option.map_eq_some_iff] at hlines
    obtain ⟨b, hb, hlines⟩ := hlines
    exact ⟨(List.getElem?_eq_some_iff.mp hb).1, by rw [List.getD_eq_getElem?_getD, hb]; exact hlines⟩
  obtain ⟨hiBound, hiLines⟩ := hblock hi
  obtain ⟨hjBound, hjLines⟩ := hblock hj
  have hne : m.lines ≠ [] := by
    rintro hempty
    rw [Method.loc, hempty] at hlong
    simp at hlong
  have hreaches : Quantity.le (.ofNat minLines) (.ofNat m.loc) = true :=
    Quantity.ofNat_le_ofNat.mpr (le_of_max_le_right hlong)
  rw [mem_counted_iff]
  simp only [hij, hiBound, hjBound, true_and, Duplicate.counts, duplicateAt, hiLines, hjLines, hsame,
    List.length_map, m.length_contents, hreaches, blockSimilarity_self hne, Bool.true_and,
    Bool.and_eq_true]

/-- A body without repeated lines has a share of one. -/
theorem distinctShare_of_nodup {m : Method} (hne : m.lines ≠ []) (h : m.contents.Nodup) :
    m.distinctShare = 1 := by
  have hpos : (m.loc : ℚ) ≠ 0 := by
    simpa [Method.loc] using hne
  rw [Method.distinctShare, List.toFinset_card_of_nodup h, m.length_contents, div_self hpos]

/-! ### Accepted settings -/

/-- What is in force for a detector under accepted settings was let through. -/
theorem accepted_inForce {doc : Entries} {s : Settings} (hs : Config.ofDocument doc = .ok s)
    {d : Detector} (hd : d ∈ Catalog.detectors) {e : String × Value} (he : e ∈ d.defaults) :
    Config.Accepted e.1 ((s.thresholds.get? e.1).getD e.2) := by
  cases hoverride : s.thresholds.get? e.1 with
  | none =>
    exact Or.inl (Config.default_inRange (Config.mem_of_get? (Config.get?_default_of_detector hd he)))
  | some v => exact Config.overrides_of_ofDocument hs (e.1, v) (Config.mem_of_get? hoverride)

theorem detector_mem_catalog : detector ∈ Catalog.detectors := by
  simp [Catalog.detectors]

/-- Under accepted settings bodies are looked at from some number of lines on. -/
theorem exists_minLines {doc : Entries} {s : Settings} (hs : Config.ofDocument doc = .ok s) :
    ∃ minLines : ℕ, Thresholds.HasLimit ⟨s.thresholdsFor detector, detector.defaults⟩ "min_lines"
      (.ofNat minLines) := by
  have he : ("min_lines", Value.whole 5) ∈ detector.defaults := List.mem_cons_self
  have hget := Config.get?_default_of_detector detector_mem_catalog he
  rcases accepted_inForce hs detector_mem_catalog he with hrange | ⟨-, x, hreal⟩
  · obtain ⟨n, hn, hnonneg⟩ := hrange.whole 5 hget
    obtain ⟨minLines, rfl⟩ := Int.eq_ofNat_of_zero_le hnonneg
    refine ⟨minLines, (s.thresholds.get? "min_lines").getD (.whole 5), rfl, ?_⟩
    rw [hn]
    rfl
  · cases hget.symm.trans hreal

/-- Under accepted settings the limit of similarity is a number, and at most one when defined. -/
theorem exists_minSimilarity {doc : Entries} {s : Settings} (hs : Config.ofDocument doc = .ok s) :
    ∃ minSimilarity : Quantity,
      Thresholds.HasLimit ⟨s.thresholdsFor detector, detector.defaults⟩ "min_similarity"
        minSimilarity ∧
      (minSimilarity ≠ .undefined → minSimilarity.le (.finite 1) = true) := by
  have he : ("min_similarity", Value.real (.ratio 6 10)) ∈ detector.defaults :=
    List.mem_cons_of_mem _ List.mem_cons_self
  have hget := Config.get?_default_of_detector detector_mem_catalog he
  obtain ⟨y, hy, -, hhigh⟩ := (accepted_inForce hs detector_mem_catalog he).bounds hget
  have hratio : Catalog.ratioThresholds.contains "min_similarity" = true := by decide +kernel
  rw [hratio, Bool.true_and] at hhigh
  exact ⟨y, ⟨(s.thresholds.get? "min_similarity").getD (.real (.ratio 6 10)), rfl,
    Value.quantity?_of_number? hy⟩, fun hdefined ↦ Quantity.le_ofInt_iff.mpr ⟨hdefined, hhigh⟩⟩

/-- When equal bodies are reported. Assumes: settings from a document that is accepted. Whatever the
project, there is a result; it counts the pairs of positions in `counted`, which are those of the
duplicates that are found, and the smell is detected when there are any. Two methods at different
positions, with equal lines apart from the blanks around them, and with as many lines as are looked
at and one at least, are counted exactly when the share of distinct lines among their lines, as a
binary fraction, is above nought and reaches the limit of similarity. So they are when no line is
repeated and the limit is defined. -/
theorem identical_bodies_counted_iff {doc : Entries} {s : Settings}
    (hs : Config.ofDocument doc = .ok s) (p : Project) :
    ∃ (minLines : ℕ) (minSimilarity : Quantity) (r : Result),
      let t : Thresholds := ⟨s.thresholdsFor detector, detector.defaults⟩
      t.HasLimit "min_lines" (.ofNat minLines) ∧ t.HasLimit "min_similarity" minSimilarity ∧
      detector.detect (.ofProject p) t.given = .ok (some r) ∧
      findings p t = .ok ⟨(counted p (.ofNat minLines) minSimilarity).map (duplicateAt p)⟩ ∧
      r.detail? "duplicate_count" =
        some (.count (counted p (.ofNat minLines) minSimilarity).length) ∧
      (r.detected = true ↔ counted p (.ofNat minLines) minSimilarity ≠ []) ∧
      ∀ (i j : ℕ) (m m' : Method), i < j → (p.classes.flatMap (·.methods))[i]? = some m →
        (p.classes.flatMap (·.methods))[j]? = some m' → m'.contents = m.contents →
        max 1 minLines ≤ m.loc →
          ((i, j) ∈ counted p (.ofNat minLines) minSimilarity ↔
            Quantity.lt (.finite 0) (.ofRat m.distinctShare) = true ∧
              minSimilarity.le (.ofRat m.distinctShare) = true) ∧
          (m.contents.Nodup → minSimilarity ≠ .undefined →
            (i, j) ∈ counted p (.ofNat minLines) minSimilarity) := by
  obtain ⟨minLines, hlines⟩ := exists_minLines hs
  obtain ⟨minSimilarity, hsimilarity, hhigh⟩ := exists_minSimilarity hs
  obtain ⟨r, hr, hcount, hdetected⟩ := exists_result (p := p) hlines hsimilarity
  refine ⟨minLines, minSimilarity, r, hlines, hsimilarity, hr, findings_eq hlines hsimilarity,
    hcount, hdetected, fun i j m m' hij hi hj hsame hlong ↦ ?_⟩
  have hiff : (i, j) ∈ counted p (.ofNat minLines) minSimilarity ↔ _ :=
    mem_counted_of_contents hij hi hj hsame hlong
  refine ⟨hiff, fun hnodup hdefined ↦ ?_⟩
  have hne : m.lines ≠ [] := List.ne_nil_of_length_pos (le_of_max_le_left hlong)
  have hone : Quantity.ofRat 1 = .finite 1 := by decide +kernel
  rw [hiff, distinctShare_of_nodup hne hnodup, hone]
  exact ⟨rfl, hhigh hdefined⟩

/-- A method with the given lines, indented. -/
def indented (name indent : String) (lines : List String) : Method :=
  { (default : Method) with name := name, lines := lines.map (⟨indent ++ ·, none⟩) }

/-- A project of two methods with the same lines at different indentations. -/
def twins (lines : List String) : Project where
  classes := [{ (default : Class) with name := "Shop", methods := [indented "price" "\t" lines] },
    { (default : Class) with name := "Cart", methods := [indented "sum" "\t\t" lines] }]
  scenes := []
  autoloads := []
  signals := []
  name := "game"

/-- Five lines of which three are distinct just reach the limit of the defaults. -/
theorem identical_bodies_counted_iff_repeated :
    let lines := ["tick()", "tick()", "draw()", "tick()", "wait()"]
    let m := indented "price" "\t" lines
    let m' := indented "sum" "\t\t" lines
    ∃ s, Config.ofDocument [] = .ok s ∧ m'.contents = m.contents ∧ m.distinctShare = 3 / 5 ∧
      ∃ r, detector.detect (.ofProject (twins lines)) (s.thresholdsFor detector) = .ok (some r) ∧
        r.detected = true := by
  intro lines m m'
  have hs : Config.ofDocument [] = .ok {} := rfl
  have hsame : m'.contents = m.contents := by decide +kernel
  have hshare : m.distinctShare = 3 / 5 := by decide +kernel
  obtain ⟨minLines, minSimilarity, r, hlines, hsimilarity, hr, -, -, hdetected, hpairs⟩ :=
    identical_bodies_counted_iff hs (twins lines)
  obtain rfl : minLines = 5 := by
    obtain ⟨v, hv, hlimit⟩ := hlines
    cases hv
    have hfive : (5 : ℚ) = minLines := Quantity.finite.inj (Option.some.inj hlimit)
    exact_mod_cast hfive.symm
  obtain rfl : minSimilarity = .ratio 6 10 := by
    obtain ⟨v, hv, hlimit⟩ := hsimilarity
    cases hv
    exact (Option.some.inj hlimit).symm
  have hcounted : (0, 1) ∈ counted (twins lines) (.ofNat 5) (.ratio 6 10) := by
    rw [(hpairs 0 1 m m' Nat.zero_lt_one rfl rfl hsame (by decide)).1, hshare]
    decide +kernel
  exact ⟨_, hs, hsame, hshare, r, hr, hdetected.mpr (List.ne_nil_of_mem hcounted)⟩

/-- The same line five times makes a share of a fifth, and two equal bodies of it are no duplicates
under the defaults. -/
theorem identical_bodies_missed :
    let lines := List.replicate 5 "tick()"
    let m := indented "price" "\t" lines
    let m' := indented "sum" "\t\t" lines
    ∃ s, Config.ofDocument [] = .ok s ∧
      Thresholds.HasLimit ⟨s.thresholdsFor detector, detector.defaults⟩ "min_lines" (.ofNat 5) ∧
      Thresholds.HasLimit ⟨s.thresholdsFor detector, detector.defaults⟩ "min_similarity"
        (.ratio 6 10) ∧
      (twins lines).classes.flatMap (·.methods) = [m, m'] ∧
      m'.contents = m.contents ∧ m.loc = 5 ∧ m.distinctShare = 1 / 5 ∧
      ∃ r, detector.detect (.ofProject (twins lines)) (s.thresholdsFor detector) = .ok (some r) ∧
        r.detected = false ∧ r.detail? "duplicate_count" = some (.count 0) := by
  intro lines m m'
  have hlines : Thresholds.HasLimit ⟨Settings.thresholdsFor {} detector, detector.defaults⟩
      "min_lines" (.ofNat 5) := ⟨.whole 5, rfl, rfl⟩
  have hsimilarity : Thresholds.HasLimit ⟨Settings.thresholdsFor {} detector, detector.defaults⟩
      "min_similarity" (.ratio 6 10) := ⟨.real (.ratio 6 10), rfl, rfl⟩
  have hnone : counted (twins lines) (.ofNat 5) (.ratio 6 10) = [] := by decide +kernel
  obtain ⟨r, hr, hcount, hdetected⟩ := exists_result (p := twins lines) hlines hsimilarity
  rw [hnone] at hcount hdetected
  refine ⟨{}, rfl, hlines, hsimilarity, rfl, by decide +kernel, rfl, by decide +kernel, r, hr, ?_,
    hcount⟩
  simpa using hdetected

end DuplicateCode

end CodeSmells
