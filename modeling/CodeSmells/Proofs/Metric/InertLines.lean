import CodeSmells.Detector.MessageChains
import CodeSmells.Detector.PrimitiveObsession
import CodeSmells.Detector.SpeculativeGenerality
import CodeSmells.Detector.SwitchStatements
import CodeSmells.Detector.TemporaryField
import CodeSmells.Script.Edges
import Mathlib.Data.List.DropRight
import Mathlib.Data.List.TakeWhile

/-!
# Blank lines and comments are not read

Most measures of a body look at its code lines: they count them, read a construct off their
indentation, or walk back through the lines before one of them. `inert_lines_unread` says that lines
of blanks and comments, at whatever indentation and at whatever places they are put into the methods
of a class, change none of these measures, and that an old line stands inside a conditional at its
new place exactly when it did at its old one.

A line is `Inert` by its text alone, and `isCode_eq_false_iff` shows that these are the lines that
do not count as code. `padded` puts lines into a body and `shifted` tells where an old line then
stands. The argument is the same for every measure: it depends on the code lines only, and those
stay (`filter_padded`). Where a measure walks back from a line, the code lines before that line stay
(`filter_take_padded`), and `insideConditional_filter` shows that the walk stops at no other line.
-/

set_option autoImplicit false
set_option relaxedAutoImplicit false

namespace CodeSmells

/-! ### Lines that are no code -/

namespace SourceLine

/-- A line that, after blanks, is at its end or starts a comment. -/
def Inert (line : SourceLine) : Prop :=
  ∃ lead rest : List Char, line.text.toList = lead ++ rest ∧ (∀ c ∈ lead, Text.isBlank c = true) ∧
    (rest = [] ∨ ['#'] <+: rest ∨ ['/', '/'] <+: rest)

theorem dropTrailing_cons {p : Char → Bool} {c : Char} (hc : p c = false) (cs : List Char) :
    Text.dropTrailing p (c :: cs) = c :: Text.dropTrailing p cs := by
  rw [Text.dropTrailing, Text.dropTrailing, List.reverse_cons, List.dropWhile_append]
  by_cases hrest : (cs.reverse.dropWhile p).isEmpty
  · rw [if_pos hrest, List.isEmpty_iff.mp hrest]
    simp [hc]
  · simp [hrest]

/-- Blanks in front of a text do not show in the content of a line. -/
theorem content_eq {line : SourceLine} {lead rest : List Char}
    (htext : line.text.toList = lead ++ rest) (hlead : ∀ c ∈ lead, Text.isBlank c = true)
    (hrest : ∀ c ∈ rest.head?, Text.isBlank c = false) :
    line.content = Text.dropTrailing Text.isBlank rest := by
  rw [content, Text.trim, Text.dropAround, Text.dropLeading, htext,
    List.dropWhile_append_of_pos hlead]
  cases rest with
  | nil => rfl
  | cons c rest =>
    rw [List.dropWhile_cons_of_neg (by simp [hrest c rfl])]

theorem isComment_iff (line : SourceLine) :
    line.isComment = true ↔ ['#'] <+: line.content ∨ ['/', '/'] <+: line.content := by
  rw [isComment]
  split
  · next cs heq => simp [heq]
  · next cs heq => simp [heq]
  · next hhash hslash =>
    refine ⟨nofun, ?_⟩
    rintro (⟨cs, hcs⟩ | ⟨cs, hcs⟩)
    · exact (hhash cs hcs.symm).elim
    · exact (hslash cs hcs.symm).elim

/-- The lines that do not count as code are those of blanks and the comments. -/
theorem isCode_eq_false_iff (line : SourceLine) : line.isCode = false ↔ line.Inert := by
  rw [isCode, Bool.and_eq_false_iff, Bool.not_eq_false', Bool.not_eq_false', isComment_iff, isBlank,
    List.isEmpty_iff]
  constructor
  · intro hnocode
    have hlead : ∀ c ∈ line.text.toList.takeWhile Text.isBlank, Text.isBlank c = true :=
      fun c hc ↦ List.mem_takeWhile_imp hc
    have hhead : ∀ c ∈ (line.text.toList.dropWhile Text.isBlank).head?, Text.isBlank c = false := by
      intro c hc
      have hnot := List.head?_dropWhile_not Text.isBlank line.text.toList
      rwa [Option.mem_def.mp hc] at hnot
    have hcontent := content_eq (List.takeWhile_append_dropWhile).symm hlead hhead
    have hpart : line.content <+: line.text.toList.dropWhile Text.isBlank := by
      rw [hcontent]
      exact List.rdropWhile_prefix Text.isBlank _
    refine ⟨_, _, List.takeWhile_append_dropWhile.symm, hlead, ?_⟩
    rcases hnocode with hempty | hhash | hslash
    · refine Or.inl (List.head?_eq_none_iff.mp ?_)
      refine Option.eq_none_iff_forall_not_mem.mpr fun c hc ↦ ?_
      have hblank : ∀ c ∈ line.text.toList.dropWhile Text.isBlank, Text.isBlank c = true :=
        List.rdropWhile_eq_nil_iff.mp (hcontent.symm.trans hempty)
      exact Bool.false_ne_true ((hhead c hc).symm.trans (hblank c (List.mem_of_mem_head? hc)))
    · exact Or.inr (Or.inl (hhash.trans hpart))
    · exact Or.inr (Or.inr (hslash.trans hpart))
  · rintro ⟨lead, rest, htext, hlead, rfl | ⟨cs, rfl⟩ | ⟨cs, rfl⟩⟩
    · exact Or.inl (content_eq htext hlead nofun)
    · rw [content_eq htext hlead (by simp; decide), List.singleton_append,
        dropTrailing_cons (by decide)]
      exact Or.inr (Or.inl ⟨_, rfl⟩)
    · rw [content_eq htext hlead (by simp; decide), List.cons_append, List.singleton_append,
        dropTrailing_cons (by decide), dropTrailing_cons (by decide)]
      exact Or.inr (Or.inr ⟨_, rfl⟩)

end SourceLine

/-! ### Lines put into a body -/

/-- A body with further lines: those of `gaps i` stand before the old line at `i`, and those of the
first gap after the last line stand at the end. -/
def padded (gaps : ℕ → List SourceLine) : List SourceLine → List SourceLine
  | [] => gaps 0
  | line :: rest => gaps 0 ++ line :: padded (fun i ↦ gaps (i + 1)) rest

/-- Where the old line at an index stands in the body with further lines. -/
def shifted (gaps : ℕ → List SourceLine) (index : ℕ) : ℕ :=
  index + total ((List.range (index + 1)).map fun i ↦ (gaps i).length)

theorem shifted_zero (gaps : ℕ → List SourceLine) : shifted gaps 0 = (gaps 0).length := by
  simp [shifted, total]

theorem shifted_succ (gaps : ℕ → List SourceLine) (index : ℕ) :
    shifted gaps (index + 1) = (gaps 0).length + (shifted (fun i ↦ gaps (i + 1)) index + 1) := by
  rw [shifted, shifted, List.range_succ_eq_map, List.map_cons, total_cons, List.map_map]
  simp only [Function.comp_def, Nat.succ_eq_add_one]
  omega

/-- The old line stands at its new place. -/
theorem getElem?_padded {lines : List SourceLine} {index : ℕ} (hindex : index < lines.length)
    (gaps : ℕ → List SourceLine) : (padded gaps lines)[shifted gaps index]? = lines[index]? := by
  induction lines generalizing gaps index with
  | nil => cases hindex
  | cons line rest ih =>
    cases index with
    | zero => rw [padded, shifted_zero, List.getElem?_append_right le_rfl, Nat.sub_self]; rfl
    | succ index =>
      rw [padded, shifted_succ, List.getElem?_append_right (Nat.le_add_right _ _),
        Nat.add_sub_cancel_left, List.getElem?_cons_succ, List.getElem?_cons_succ]
      exact ih (Nat.lt_of_succ_lt_succ hindex) _

section Inert

variable {gaps : ℕ → List SourceLine}

theorem filter_gap (hinert : ∀ i, ∀ line ∈ gaps i, line.Inert) (i : ℕ) :
    (gaps i).filter (·.isCode) = [] :=
  List.filter_eq_nil_iff.mpr fun line hline ↦
    Bool.eq_false_iff.mp (line.isCode_eq_false_iff.mpr (hinert i line hline))

/-- Inert lines leave the code lines as they were. -/
theorem filter_padded (hinert : ∀ i, ∀ line ∈ gaps i, line.Inert) (lines : List SourceLine) :
    (padded gaps lines).filter (·.isCode) = lines.filter (·.isCode) := by
  induction lines generalizing gaps with
  | nil => exact filter_gap hinert 0
  | cons line rest ih =>
    rw [padded, List.filter_append, filter_gap hinert, List.nil_append, List.filter_cons,
      List.filter_cons, ih fun i ↦ hinert (i + 1)]

/-- Inert lines leave the code lines before an old line as they were. -/
theorem filter_take_padded (hinert : ∀ i, ∀ line ∈ gaps i, line.Inert) {lines : List SourceLine}
    {index : ℕ} (hindex : index < lines.length) :
    ((padded gaps lines).take (shifted gaps index)).filter (·.isCode) =
      (lines.take index).filter (·.isCode) := by
  induction lines generalizing gaps index with
  | nil => cases hindex
  | cons line rest ih =>
    cases index with
    | zero =>
      rw [padded, shifted_zero, List.take_left]
      exact filter_gap hinert 0
    | succ index =>
      rw [padded, shifted_succ, List.take_length_add_append, List.filter_append,
        filter_gap hinert, List.nil_append, List.take_succ_cons, List.take_succ_cons,
        List.filter_cons, List.filter_cons,
        ih (fun i ↦ hinert (i + 1)) (Nat.lt_of_succ_lt_succ hindex)]

end Inert

/-! ### Measures of code lines -/

theorem countP_isCode_and (p : SourceLine → Bool) (lines : List SourceLine) :
    lines.countP (fun l ↦ l.isCode && p l) = (lines.filter (·.isCode)).countP p := by
  rw [List.countP_filter]
  exact List.countP_congr fun l _ ↦ by rw [Bool.and_comm]

/-- The walk back from a line stops at code lines only. -/
theorem insideConditional_filter (lines : List SourceLine) (current : ℕ) :
    insideConditional current (lines.filter (·.isCode)) = insideConditional current lines := by
  induction lines generalizing current with
  | nil => rfl
  | cons line earlier ih =>
    by_cases hcode : line.isCode
    · rw [List.filter_cons_of_pos hcode, insideConditional, insideConditional, ih, ih]
    · rw [List.filter_cons_of_neg hcode, insideConditional, ih]
      simp [hcode]

/-- The uses of a field are found in code lines, and under conditions that code lines open. -/
theorem TemporaryField.usesFrom_filter (name : List Char) (lines earlier : List SourceLine) :
    usesFrom name (earlier.filter (·.isCode)) (lines.filter (·.isCode)) =
      usesFrom name earlier lines := by
  induction lines generalizing earlier with
  | nil => rfl
  | cons line later ih =>
    by_cases hcode : line.isCode
    · rw [List.filter_cons_of_pos hcode, usesFrom, usesFrom, ← ih (line :: earlier),
        List.filter_cons_of_pos hcode, insideConditional_filter]
    · have hnext := ih (line :: earlier)
      rw [List.filter_cons_of_neg hcode] at hnext ⊢
      rw [usesFrom, ← hnext]
      simp [hcode]

/-- What is gathered from entries that give nothing or break off is gathered without those that give
nothing. -/
theorem mapM_filter_bind {α β γ δ ε : Type} {f : α → Except ε (List β × List γ)} {p : α → Bool}
    (hnothing : ∀ x, p x = false → f x = .ok ([], [])) (xs : List α)
    (gather : List β → List γ → Except ε δ) :
    ((xs.filter p).mapM f >>= fun found ↦ gather (found.flatMap (·.1)) (found.flatMap (·.2))) =
      (xs.mapM f >>= fun found ↦ gather (found.flatMap (·.1)) (found.flatMap (·.2))) := by
  induction xs generalizing gather with
  | nil => rfl
  | cons x xs ih =>
    by_cases hx : p x
    · rw [List.filter_cons_of_pos hx]
      simp only [List.mapM_cons, bind_assoc, pure_bind, List.flatMap_cons]
      exact bind_congr fun y ↦ ih fun bs cs ↦ gather (y.1 ++ bs) (y.2 ++ cs)
    · rw [List.filter_cons_of_neg hx, List.mapM_cons, hnothing x (by simpa using hx)]
      simp only [bind_assoc, pure_bind]
      exact ih gather

/-- The edges of a body are those of its code lines. -/
theorem Edges.Context.edges_filter (c : Edges.Context) (lines : List SourceLine) :
    c.edges (lines.filter (·.isCode)) = c.edges lines := by
  refine mapM_filter_bind (fun line hcode ↦ ?_) lines fun calls accesses ↦
    .ok (sortedSet calls, sortedSet accesses)
  have hcalls : c.lineCalls line = .ok [] := by simp [lineCalls, callees, hcode]; rfl
  have haccesses : c.lineAccesses line = .ok [] := by simp [lineAccesses, touched, hcode]; rfl
  rw [hcalls, haccesses]
  rfl

/-! ### Methods and classes -/

/-- A method with further lines in its body. -/
def Method.padded (gaps : ℕ → List SourceLine) (m : Method) : Method :=
  { m with lines := CodeSmells.padded gaps m.lines }

/-- A class with further lines in the bodies of its methods: those of `gaps i` in the method at
`i`. -/
def Class.padded (gaps : ℕ → ℕ → List SourceLine) (k : Class) : Class :=
  { k with methods := k.methods.mapIdx fun i m ↦ m.padded (gaps i) }

/-- What is read off the code of a method is read off another method alike: how many lines decide
and suspend, which constructs branch, which chains are too long, which names are mentioned and which
calls and accesses are made. -/
structure Method.ReadsAlike (m m' : Method) : Prop where
  complexity : cyclomaticComplexity m'.lines = cyclomaticComplexity m.lines
  suspensions : suspensionCount m'.lines = suspensionCount m.lines
  constructs : SwitchStatements.constructs m' = SwitchStatements.constructs m
  chains : MessageChains.messageChains m' = MessageChains.messageChains m
  unusedParameters : ∀ name, SpeculativeGenerality.isUnusedParameter name m' =
    SpeculativeGenerality.isUnusedParameter name m
  edges : ∀ context : Edges.Context, context.edges m'.lines = context.edges m.lines

/-- Methods of one name with the same code lines are read alike. -/
theorem Method.readsAlike_of_codeLines {m m' : Method} (hname : m'.name = m.name)
    (hcode : m'.codeLines = m.codeLines) : m.ReadsAlike m' where
  complexity := by
    rw [cyclomaticComplexity, cyclomaticComplexity, countP_isCode_and, countP_isCode_and]
    exact congrArg (fun lines ↦ 1 + lines.countP fun l ↦ decides (Text.codeOf l.content)) hcode
  suspensions := by
    have hcount : ∀ lines, suspensionCount lines = (lines.filter (·.isCode)).countP
        fun l ↦ Text.hasWord ["yield", "await"] l.content := fun lines ↦ countP_isCode_and _ lines
    rw [hcount, hcount]
    exact congrArg _ hcode
  constructs := congrArg SwitchStatements.constructsOf hcode
  chains := by rw [MessageChains.messageChains, MessageChains.messageChains, hcode, hname]
  unusedParameters := fun name ↦ by
    rw [SpeculativeGenerality.isUnusedParameter, SpeculativeGenerality.isUnusedParameter, hcode]
  edges := fun context ↦ by
    rw [← context.edges_filter m'.lines, ← context.edges_filter m.lines]
    exact congrArg context.edges hcode

theorem TemporaryField.uses_of_codeLines {m m' : Method} (hcode : m'.codeLines = m.codeLines)
    (name : String) : uses name m' = uses name m := by
  rw [uses, uses, ← usesFrom_filter _ m'.lines, ← usesFrom_filter _ m.lines]
  exact congrArg (usesFrom name.toList []) hcode

section Class

variable {gaps : ℕ → ℕ → List SourceLine}

/-- What is told of each method by its name and code lines is told of the methods of the class with
further lines alike. -/
theorem Class.map_methods_padded {α : Type} {f : Method → α}
    (hf : ∀ m m' : Method, m'.name = m.name → m'.codeLines = m.codeLines → f m' = f m)
    (hinert : ∀ i j, ∀ line ∈ gaps i j, line.Inert) (k : Class) :
    (k.padded gaps).methods.map f = k.methods.map f := by
  refine List.ext_getElem? fun i ↦ ?_
  rw [padded, List.getElem?_map, List.getElem?_mapIdx, List.getElem?_map, Option.map_map]
  exact Option.map_congr fun m _ ↦ hf m _ rfl (filter_padded (hinert i) m.lines)

theorem TemporaryField.usage_padded (hinert : ∀ i j, ∀ line ∈ gaps i j, line.Inert) (k : Class)
    (name : String) : usage (k.padded gaps) name = usage k name := by
  have huses : (k.padded gaps).methods.map (fun m ↦ (m.name, uses name m)) =
      k.methods.map fun m ↦ (m.name, uses name m) :=
    Class.map_methods_padded
      (fun _ _ hname hcode ↦ by rw [uses_of_codeLines hcode name, hname]) hinert k
  have hall : ∀ methods : List Method, methods.flatMap (uses name) =
      (methods.map fun m ↦ (m.name, uses name m)).flatMap (·.2) :=
    fun methods ↦ by rw [List.flatMap_map]
  have husers : ∀ methods : List Method,
      (methods.filter fun m ↦ !(uses name m).isEmpty).map (·.name) =
        ((methods.map fun m ↦ (m.name, uses name m)).filter fun e ↦ !e.2.isEmpty).map (·.1) := by
    intro methods
    rw [List.filter_map, List.map_map]
    rfl
  simp only [usage, hall, husers, huses]

theorem PrimitiveObsession.findings_padded (hinert : ∀ i j, ∀ line ∈ gaps i j, line.Inert)
    (k : Class) : findings (k.padded gaps) = findings k := by
  have hcode : (k.padded gaps).methods.map Method.codeLines = k.methods.map Method.codeLines :=
    Class.map_methods_padded (fun _ _ _ hcode ↦ hcode) hinert k
  have hexamples : examples (k.padded gaps) = examples k := by
    rw [examples, examples, List.flatMap_def, List.flatMap_def, hcode]
  rw [findings, findings, hexamples]
  rfl

/-- An old line stands inside a conditional at its new place exactly when it did at its old one. -/
theorem enclosingConditional_padded {gaps : ℕ → List SourceLine}
    (hinert : ∀ i, ∀ line ∈ gaps i, line.Inert) {lines : List SourceLine} {index : ℕ}
    (hindex : index < lines.length) :
    enclosingConditional (padded gaps lines) (shifted gaps index) =
      enclosingConditional lines index := by
  rw [enclosingConditional, enclosingConditional, getElem?_padded hindex,
    List.getElem?_eq_getElem hindex]
  simp only
  rw [← insideConditional_filter (List.take _ _).reverse, List.filter_reverse,
    filter_take_padded hinert hindex, ← List.filter_reverse, insideConditional_filter]

/-- Blank lines and comments that are put into the methods of a class, wherever and however many,
are not read: every measure of the code stays, and an old line is found at its new place, inside a
conditional there exactly when it was before.

Assumes: every line that is put in is blank or a comment. -/
theorem inert_lines_unread (k : Class) (gaps : ℕ → ℕ → List SourceLine)
    (hinert : ∀ i j, ∀ line ∈ gaps i j, line.Inert) :
    (∀ name, TemporaryField.usage (k.padded gaps) name = TemporaryField.usage k name) ∧
    PrimitiveObsession.findings (k.padded gaps) = PrimitiveObsession.findings k ∧
    (k.padded gaps).methods.length = k.methods.length ∧
    ∀ (i : ℕ) (m : Method), k.methods[i]? = some m →
      ∃ m', (k.padded gaps).methods[i]? = some m' ∧ m.ReadsAlike m' ∧
        m'.lines = padded (gaps i) m.lines ∧
        ∀ index < m.lines.length,
          m'.lines[shifted (gaps i) index]? = m.lines[index]? ∧
          enclosingConditional m'.lines (shifted (gaps i) index) =
            enclosingConditional m.lines index := by
  refine ⟨TemporaryField.usage_padded hinert k, PrimitiveObsession.findings_padded hinert k,
    List.length_mapIdx, fun i m hm ↦ ⟨m.padded (gaps i), ?_, ?_, rfl, fun index hindex ↦ ?_⟩⟩
  · rw [Class.padded, List.getElem?_mapIdx, hm]
    rfl
  · exact Method.readsAlike_of_codeLines rfl (filter_padded (hinert i) m.lines)
  · exact ⟨getElem?_padded hindex (gaps i), enclosingConditional_padded (hinert i) hindex⟩

/-- Before every line, and at the end: a comment at the left edge, a line of blanks and a deep
comment of the other kind. -/
def remarks (_ _ : ℕ) : List SourceLine :=
  [⟨"# if", none⟩, ⟨" \t ", none⟩, ⟨"\t\t// while", none⟩]

/-- A class with a method that reads a field under a condition. -/
def guarded : Class where
  name := "Guarded"
  fields := ["shield"]
  methods := [{
    name := "hit"
    parameters := []
    lines := [⟨"if armed:", some 2⟩, ⟨"\tif shield != null:", some 3⟩,
      ⟨"\t\tshield.drop()", some 4⟩]
    calls := []
    accesses := []
    startLine := some 1 }]
  parent := none
  exportedFields := []
  autoload := false
  filePath := none
  typedFields := []

/-- Comments at the left edge do not take a read out of its condition: fifteen lines are read like
three, and the last of the three stands, as the twelfth, inside the condition as before. -/
theorem inert_lines_unread_remarks :
    (∀ i j, ∀ line ∈ remarks i j, line.Inert) ∧
    TemporaryField.usage (guarded.padded remarks) "shield" = ⟨"shield", 1, 2, 2, ["hit"]⟩ ∧
    ∃ m', (guarded.padded remarks).methods[0]? = some m' ∧ m'.lines.length = 15 ∧
      enclosingConditional m'.lines 11 = true := by
  have hinert : ∀ i j, ∀ line ∈ remarks i j, line.Inert := by
    intro i j line hline
    rw [← SourceLine.isCode_eq_false_iff]
    revert line
    simp only [remarks]
    decide +kernel
  obtain ⟨husage, -, -, hmethods⟩ := inert_lines_unread guarded remarks hinert
  refine ⟨hinert, ?_, ?_⟩
  · rw [husage]
    decide +kernel
  · obtain ⟨m', hm', -, hlines, hplaces⟩ := hmethods 0 _ rfl
    refine ⟨m', hm', by rw [hlines]; rfl, ?_⟩
    have hplace := (hplaces 2 (by decide)).2
    rw [show shifted (remarks 0) 2 = 11 from rfl] at hplace
    rw [hplace]
    decide +kernel

end Class

end CodeSmells
