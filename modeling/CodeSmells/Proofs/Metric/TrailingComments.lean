import CodeSmells.Proofs.Analysis.ClassOrder
import CodeSmells.Proofs.Detector.Comparison
import CodeSmells.Proofs.Metric.InertLines
import CodeSmells.Proofs.Text.Literal
import Mathlib.Data.List.Forall2

/-!
# Comments after code

A comment may stand on a line of its own or after code. `trailing_comments_unread` says that
comments after code, whatever they say, are read neither for the complexity of a method nor for the
primitives of a class: these see a line through its code (`codeOf`) or through the text before its
comment (`stripTrailingComment`), and both stay (`Annotated.codeOf_eq`, `Annotated.read_eq`).

Suspensions are counted on the whole line. A comment after code is read there like code:
`suspensionCount_annotate` says by how much the count of a method rises, and
`trailing_comment_unread_iff` that the verdict on a long method depends on a comment exactly when
the comment holds one of the suspending words and the line did not suspend before.

`Annotated` relates lines, methods and classes to what they become by comments. Comments can be put
after a code line whose quotes are closed.
-/

set_option autoImplicit false
set_option relaxedAutoImplicit false

namespace CodeSmells

open Text

/-! ### Lines -/

namespace SourceLine

/-- A line with a comment after its text. -/
def annotate (comment : String) (line : SourceLine) : SourceLine :=
  { line with text := line.text ++ "#" ++ comment }

theorem toList_text_annotate (comment : String) (line : SourceLine) :
    (line.annotate comment).text.toList = line.text.toList ++ '#' :: comment.toList := by
  rw [annotate, String.toList_append, String.toList_append, List.append_assoc]
  rfl

/-- A line that is inert with a comment after its text is inert without it. -/
theorem inert_of_annotate {line : SourceLine} {comment : String}
    (h : (line.annotate comment).Inert) : line.Inert := by
  obtain ⟨lead, rest, htext, hlead, hrest⟩ := h
  rw [toList_text_annotate, List.append_eq_append_iff] at htext
  rcases htext with ⟨more, hmore, -⟩ | ⟨own, htext, rfl⟩
  · -- the blanks in front end before the comment, so the line is blank
    have hblank : ∀ c ∈ line.text.toList, Text.isBlank c = true := fun c hc ↦
      hlead c (by rw [hmore]; exact List.mem_append_left _ hc)
    exact ⟨line.text.toList, [], (List.append_nil _).symm, hblank, Or.inl rfl⟩
  · refine ⟨lead, own, htext, hlead, ?_⟩
    rcases own with _ | ⟨c, _ | ⟨d, own⟩⟩
    · exact Or.inl rfl
    · -- one slash before the comment does not start a comment, nor do the two signs together
      simpa [List.cons_prefix_cons] using hrest
    · simpa [List.cons_prefix_cons] using hrest

theorem isCode_annotate {line : SourceLine} (h : line.isCode = true) (comment : String) :
    (line.annotate comment).isCode = true := by
  rw [← Bool.not_eq_false, isCode_eq_false_iff]
  intro hinert
  exact Bool.false_ne_true ((line.isCode_eq_false_iff.mpr (inert_of_annotate hinert)).symm.trans h)

/-- The second line is the first, or the first with a comment after its code. -/
inductive Annotated : SourceLine → SourceLine → Prop
  | same (line : SourceLine) : Annotated line line
  | comment {line : SourceLine} (hcode : line.isCode = true)
      (hclosed : QuotesClosed line.text.toList) (comment : String) :
      Annotated line (line.annotate comment)

variable {line line' : SourceLine}

theorem Annotated.isCode_eq (h : Annotated line line') : line'.isCode = line.isCode := by
  cases h with
  | same => rfl
  | comment hcode _ comment => rw [hcode, isCode_annotate hcode]

/-- A comment is no part of the code of a line. -/
theorem Annotated.codeOf_eq (h : Annotated line line') :
    codeOf line'.content = codeOf line.content := by
  cases h with
  | same => rfl
  | comment _ hclosed comment =>
    rw [content, content, ignoresBlanks_codeOf.apply_trim, ignoresBlanks_codeOf.apply_trim,
      toList_text_annotate, codeOf_append_comment hclosed]

/-- A comment is no part of the text before the comment, the blanks around that text apart. -/
theorem Annotated.read_eq (h : Annotated line line') {α : Type} {read : List Char → α}
    (hread : IgnoresBlanks read) :
    read (stripTrailingComment line'.content) = read (stripTrailingComment line.content) := by
  have hstrip : IgnoresBlanks fun cs ↦ read (stripTrailingComment cs) :=
    hread.codePieces fun _ ↦ rfl
  cases h with
  | same => rfl
  | comment _ hclosed comment =>
    rw [content, content, hstrip.apply_trim, hstrip.apply_trim, toList_text_annotate,
      stripTrailingComment_eq, stripTrailingComment_eq, codePieces_append_comment hclosed]

/-- The words of a comment are words of the line. -/
theorem hasWord_annotate (wanted : List String) (comment : String) (line : SourceLine) :
    hasWord wanted (line.annotate comment).content =
      (hasWord wanted line.content || hasWord wanted comment.toList) := by
  have hwords : words (line.annotate comment).content =
      words line.content ++ words comment.toList := by
    rw [content, content, ignoresBlanks_words.apply_trim, ignoresBlanks_words.apply_trim,
      toList_text_annotate, words_append_cons (by decide)]
  rw [hasWord, hasWord, hasWord, hwords, List.any_append]

end SourceLine

theorem countP_annotated {p : SourceLine → Bool}
    (hp : ∀ line line' : SourceLine, line.Annotated line' → p line' = p line)
    {lines lines' : List SourceLine} (h : List.Forall₂ SourceLine.Annotated lines lines') :
    lines'.countP p = lines.countP p := by
  induction h with
  | nil => rfl
  | cons hline _ ih => rw [List.countP_cons, List.countP_cons, ih, hp _ _ hline]

theorem forall₂_set {lines : List SourceLine} {i : ℕ} {line line' : SourceLine}
    (hline : lines[i]? = some line) (h : line.Annotated line') :
    List.Forall₂ SourceLine.Annotated lines (lines.set i line') := by
  induction lines generalizing i with
  | nil => cases hline
  | cons first rest ih =>
    cases i with
    | zero =>
      obtain rfl : first = line := by simpa using hline
      exact .cons h (List.forall₂_same.mpr fun other _ ↦ .same other)
    | succ i => exact .cons (.same first) (ih hline)

/-! ### Methods and classes -/

/-- The second method is the first with comments after some of its lines. -/
structure Method.Annotated (m m' : Method) : Prop where
  lines : List.Forall₂ SourceLine.Annotated m.lines m'.lines
  rest : m' = { m with lines := m'.lines }

/-- The second class is the first with comments after some lines of its methods. -/
structure Class.Annotated (k k' : Class) : Prop where
  methods : List.Forall₂ Method.Annotated k.methods k'.methods
  rest : k' = { k with methods := k'.methods }

theorem cyclomaticComplexity_annotated {lines lines' : List SourceLine}
    (h : List.Forall₂ SourceLine.Annotated lines lines') :
    cyclomaticComplexity lines' = cyclomaticComplexity lines := by
  rw [cyclomaticComplexity, cyclomaticComplexity,
    countP_annotated (fun line line' hline ↦ by rw [hline.isCode_eq, hline.codeOf_eq]) h]

theorem Class.Annotated.codeLines {k k' : Class} (h : k.Annotated k') :
    List.Forall₂ SourceLine.Annotated (k.methods.flatMap Method.codeLines)
      (k'.methods.flatMap Method.codeLines) := by
  refine List.rel_flatMap h.methods fun m m' hm ↦ ?_
  exact List.rel_filter (fun line line' hline ↦ by simp only [hline.isCode_eq]) hm.lines

/-! ### Primitives -/

/-- Computations on related entries end with related answers, or with the same first fault. -/
theorem mapM_sameEnding {α β γ δ : Type} {R : α → β → Prop} {S : γ → δ → Prop}
    {f : α → Except Fault γ} {g : β → Except Fault δ} {as : List α} {bs : List β}
    (h : List.Forall₂ R as bs) (hfg : ∀ a b, R a b → SameEnding S (f a) (g b)) :
    SameEnding (List.Forall₂ S) (as.mapM f) (bs.mapM g) := by
  induction h with
  | nil => exact .answer .nil
  | cons hab _ ih =>
    rw [List.mapM_cons, List.mapM_cons]
    exact SameEnding.bind (hfg _ _ hab) fun c d hcd ↦
      SameEnding.bind ih fun cs ds hcds ↦ .answer (.cons hcd hcds)

/-- Verdicts that correspond lead to results that correspond. -/
theorem Detector.detect_sameEnding {d : Detector} {scope scope' : Scope} {given : Entries}
    {R : Result → Result → Prop} (hkind : scope'.kind = scope.kind)
    (h : SameEnding (Option.Rel fun v v' ↦ R (v.result d.name) (v'.result d.name))
      (d.evaluate scope ⟨given, d.defaults⟩) (d.evaluate scope' ⟨given, d.defaults⟩)) :
    SameEnding (Option.Rel R) (d.detect scope given) (d.detect scope' given) := by
  unfold Detector.detect
  rw [hkind]
  split
  · refine SameEnding.bind h fun v v' hv ↦ ?_
    cases hv with
    | none => exact .answer .none
    | some hv =>
      simp only [Verdict.toResult_eq]
      exact .answer (.some hv)
  · exact .answer .none

namespace PrimitiveObsession

theorem stringLiteral_eq (before : Option Char) (cs : List Char) :
    stringLiteral before cs = (quoteMark? cs).bind fun cs ↦ (quotedRun? cs).bind fun found ↦
      if found.1.length < 3 then none else some found := by
  simp [stringLiteral, quotedRun?, Option.bind_assoc]

theorem literalLookup_eq (before : Option Char) (cs : List Char) :
    literalLookup before cs = (after? "get_node".toList cs).bind fun cs ↦
      (char? '(' (skipBlanks cs)).bind fun cs ↦ (quoteMark? (skipBlanks cs)).bind fun cs ↦
        (quotedRun? cs).bind fun found ↦
          (char? ')' (skipBlanks found.2)).map fun cs ↦ ((), cs) := by
  unfold literalLookup quotedRun?
  generalize "get_node".toList = needle
  simp [Option.bind_assoc, Option.map_eq_bind]

theorem stringLiteral_skipsBlanks : stringLiteral.SkipsBlanks where
  before _ _ := rfl
  empty := rfl
  lead c cs hc := by
    have hmark : quoteMark? (c :: cs) = none := by
      rw [quoteMark?, oneOf?, if_neg]
      simpa [notQuoteMark] using notQuoteMark_of_isBlank hc
    rw [stringLiteral_eq, hmark]
    rfl
  trail cs trail htrail := by
    rw [stringLiteral_eq, stringLiteral_eq, quoteMark?_append cs htrail]
    simp only [Option.bind_map, Option.map_bind, Function.comp_def, quotedRun?_append _ htrail,
      apply_ite (Option.map _), Option.map_none, Option.map_some]

theorem literalLookup_skipsBlanks : literalLookup.SkipsBlanks where
  before _ _ := rfl
  empty := rfl
  lead c cs hc := by
    have hstart : after? "get_node".toList (c :: cs) = none := by
      have hg : 'g' ≠ c := (ne_of_isBlank hc (by decide)).symm
      rw [show "get_node".toList = 'g' :: "et_node".toList from rfl, after?, if_neg]
      simpa using hg
    rw [literalLookup_eq, hstart]
    rfl
  trail cs trail htrail := by
    rw [literalLookup_eq, literalLookup_eq, after?_append (by decide) cs htrail]
    simp only [Option.bind_map, Option.map_bind, Option.map_map, Function.comp_def,
      quotedRun?_append _ htrail, quoteMark?_skipBlanks_append _ htrail,
      char?_skipBlanks_append (show isBlank '(' = false by decide) _ htrail,
      char?_skipBlanks_append (show isBlank ')' = false by decide) _ htrail]

/-- What an example says, the line apart on which it stands. -/
def Example.mark (e : Example) : Kind × String :=
  (e.kind, e.value)

/-- A line with a comment holds the same primitives. -/
theorem examplesOf_annotated {line line' : SourceLine} (h : line.Annotated line') :
    SameEnding (fun es es' ↦ es'.map Example.mark = es.map Example.mark) (examplesOf line)
      (examplesOf line') := by
  rw [examplesOf, examplesOf]
  simp only [h.codeOf_eq, h.read_eq stringLiteral_skipsBlanks.findAll,
    h.read_eq literalLookup_skipsBlanks.occurs]
  refine SameEnding.bind_left _ fun numbers ↦ .answer ?_
  simp only [List.map_append, List.map_map, Function.comp_def, Example.mark]
  split <;> rfl

theorem examples_annotated {k k' : Class} (h : k.Annotated k') :
    SameEnding (fun es es' ↦ es'.map Example.mark = es.map Example.mark) (examples k)
      (examples k') := by
  have hlines := mapM_sameEnding h.codeLines fun _ _ hline ↦ examplesOf_annotated hline
  refine SameEnding.bind hlines fun found found' hfound ↦ .answer ?_
  induction hfound with
  | nil => rfl
  | cons hline _ ih =>
    rw [List.flatten_cons, List.flatten_cons, List.map_append, List.map_append, hline, ih]

namespace Findings

/-- As many primitives of each kind, and the same examples, the lines apart on which they stand. -/
structure Alike (f f' : Findings) : Prop where
  magicNumbers : f'.magicNumbers = f.magicNumbers
  magicStrings : f'.magicStrings = f.magicStrings
  nodeLookups : f'.nodeLookups = f.nodeLookups
  untypedFields : f'.untypedFields = f.untypedFields
  examples : f'.examples.map Example.mark = f.examples.map Example.mark

variable {f f' : Findings}

theorem Alike.detected_eq (h : f.Alike f') (t : Thresholds) : f'.detected t = f.detected t := by
  rw [detected, detected, h.magicNumbers, h.magicStrings, h.nodeLookups, h.untypedFields]

theorem Alike.severity_eq (h : f.Alike f') : f'.severity = f.severity := by
  rw [severity, severity, h.magicNumbers, h.nodeLookups, h.untypedFields]

end Findings

theorem findings_annotated {k k' : Class} (h : k.Annotated k') :
    SameEnding Findings.Alike (findings k) (findings k') := by
  refine SameEnding.bind (examples_annotated h) fun es es' hes ↦ .answer ?_
  have hcount : ∀ kind : Kind,
      es'.countP (·.kind == kind) = es.countP (·.kind == kind) := by
    intro kind
    have hmarks := congrArg (List.countP fun e ↦ e.1 == kind) hes
    rwa [List.countP_map, List.countP_map] at hmarks
  exact {
    magicNumbers := hcount _
    magicStrings := hcount _
    nodeLookups := hcount _
    untypedFields := by rw [h.rest]; rfl
    examples := by simp only [List.map_take, hes] }

/-- The findings in a class are found, whatever its lines are. -/
theorem exists_findings (k : Class) : ∃ f, findings k = .ok f := by
  have hexamples : Answers (examples k) :=
    Gives.bind (answers_mapM fun line _ ↦ answers_examplesOf line) fun found _ ↦ answers_pure _
  obtain ⟨f, hf, -⟩ : Answers (findings k) := Gives.bind hexamples fun all _ ↦ answers_pure _
  exact ⟨f, hf⟩

/-- Two results of the detector that agree in all but the lines on which the examples stand. -/
structure ResultsAlike (t : Thresholds) (r r' : Result) : Prop where
  reading : r'.reading = r.reading
  details : ∃ f f' : Findings, f.Alike f' ∧ r.details = f.toValue t ∧ r'.details = f'.toValue t

theorem detect_annotated {k k' : Class} (h : k.Annotated k') (p p' : Project)
    (path : Option String) (given : Entries) :
    SameEnding (Option.Rel (ResultsAlike ⟨given, detector.defaults⟩))
      (detector.detect (.ofClass k p path) given) (detector.detect (.ofClass k' p' path) given) := by
  have hlocation : Scope.location (.ofClass k' p' path) = Scope.location (.ofClass k p path) := by
    rw [h.rest]
    rfl
  refine Detector.detect_sameEnding rfl ?_
  refine SameEnding.bind (findings_annotated h) fun f f' hf ↦ ?_
  rw [hf.detected_eq, hf.severity_eq, hlocation]
  exact SameEnding.bind_left _ fun detected ↦ .answer (.some ⟨rfl, f, f', hf, rfl, rfl⟩)

end PrimitiveObsession

/-- Comments after code are read neither for complexity nor for primitives. A comment after a text
whose quotes are closed, whatever it says, is no part of its code. For every class and every way of
putting comments after code lines of its methods, the complexity of each method stays, the findings
count the same primitives and list the same examples, and under all thresholds the results agree in
all but the lines on which the examples stand, or the fault is the same. -/
theorem trailing_comments_unread :
    (∀ cs comment : List Char, QuotesClosed cs → codeOf (cs ++ '#' :: comment) = codeOf cs) ∧
    ∀ k k' : Class, k.Annotated k' →
      List.Forall₂ (fun m m' ↦ cyclomaticComplexity m'.lines = cyclomaticComplexity m.lines)
        k.methods k'.methods ∧
      (∃ f f', PrimitiveObsession.findings k = .ok f ∧ PrimitiveObsession.findings k' = .ok f' ∧
        f.Alike f') ∧
      ∀ (p p' : Project) (path : Option String) (given : Entries),
        SameEnding
          (Option.Rel (PrimitiveObsession.ResultsAlike ⟨given, PrimitiveObsession.detector.defaults⟩))
          (PrimitiveObsession.detector.detect (.ofClass k p path) given)
          (PrimitiveObsession.detector.detect (.ofClass k' p' path) given) := by
  refine ⟨fun cs comment hclosed ↦ codeOf_append_comment hclosed comment, fun k k' h ↦
    ⟨?_, ?_, PrimitiveObsession.detect_annotated h⟩⟩
  · exact h.methods.imp fun m m' hm ↦ cyclomaticComplexity_annotated hm.lines
  · obtain ⟨f, hf⟩ := PrimitiveObsession.exists_findings k
    obtain ⟨f', hf'⟩ := PrimitiveObsession.exists_findings k'
    have hfindings := PrimitiveObsession.findings_annotated h
    rw [hf, hf'] at hfindings
    cases hfindings with
    | answer halike => exact ⟨f, f', hf, hf', halike⟩

/-- A method of one line. -/
def oneLiner (text : String) : Method :=
  ⟨"step", [], [⟨text, some 2⟩], [], [], some 1⟩

/-- A class with a method of one line. -/
def oneLinerClass (text : String) : Class :=
  ⟨"Boss", [], [oneLiner text], none, [], false, none, []⟩

/-- A comment that decides, counts, opens a string and looks a node up is not read after a line that
has a number and a string with a number sign in it. -/
theorem trailing_comments_unread_boss :
    let line : SourceLine := ⟨"\tif hp > 12 and mode == \"Phase # 1\":  ", some 2⟩
    let comment := " or 99 while 'get_node(\"Arena/Gate\")"
    let k := oneLinerClass line.text
    let k' := oneLinerClass (line.annotate comment).text
    QuotesClosed line.text.toList ∧
    codeOf (line.text.toList ++ '#' :: comment.toList) = codeOf line.text.toList ∧
    k.Annotated k' ∧
    ∃ f f', PrimitiveObsession.findings k = .ok f ∧ PrimitiveObsession.findings k' = .ok f' ∧
      f.Alike f' ∧ (f.magicNumbers, f.magicStrings, f.nodeLookups) = (1, 1, 0) := by
  intro line comment k k'
  have hclosed : QuotesClosed line.text.toList := by decide +kernel
  have hline : line.Annotated (line.annotate comment) :=
    .comment (by decide +kernel) hclosed comment
  have hmethod : (oneLiner line.text).Annotated (oneLiner (line.annotate comment).text) :=
    ⟨.cons hline .nil, rfl⟩
  have hclass : k.Annotated k' := ⟨.cons hmethod .nil, rfl⟩
  refine ⟨hclosed, trailing_comments_unread.1 _ _ hclosed, hclass, ?_⟩
  obtain ⟨-, ⟨f, f', hf, hf', halike⟩, -⟩ := trailing_comments_unread.2 k k' hclass
  refine ⟨f, f', hf, hf', halike, ?_⟩
  have hcounts : (PrimitiveObsession.findings k).map
      (fun f ↦ (f.magicNumbers, f.magicStrings, f.nodeLookups)) = .ok (1, 1, 0) := by
    decide +kernel
  rw [hf] at hcounts
  exact Except.ok.inj hcounts

/-! ### Long methods -/

/-- One of the two suspending words stands in a comment. -/
def mentionsSuspension (comment : String) : Bool :=
  hasWord ["yield", "await"] comment.toList

theorem SourceLine.suspends_annotate {line : SourceLine} (hcode : line.isCode = true)
    (comment : String) :
    (line.annotate comment).suspends = (line.suspends || mentionsSuspension comment) := by
  rw [suspends, suspends, isCode_annotate hcode, hcode, hasWord_annotate, Bool.true_and,
    Bool.true_and, mentionsSuspension]

/-- A comment after a line makes the line suspend when it holds a suspending word. -/
theorem suspensionCount_annotate {lines : List SourceLine} {i : ℕ} {line : SourceLine}
    (hline : lines[i]? = some line) (hcode : line.isCode = true) (comment : String) :
    suspensionCount (lines.set i (line.annotate comment)) =
      suspensionCount lines + if !line.suspends && mentionsSuspension comment then 1 else 0 := by
  obtain ⟨hi, hget⟩ := List.getElem?_eq_some_iff.mp hline
  rw [suspensionCount, suspensionCount, List.countP_set hi, hget,
    SourceLine.suspends_annotate hcode]
  cases hsuspends : line.suspends with
  | false => simp
  | true =>
    have hpos : 0 < lines.countP (·.suspends) :=
      List.countP_pos_iff.mpr ⟨line, List.mem_of_getElem? hline, hsuspends⟩
    rw [if_pos rfl, Bool.true_or, if_pos rfl, Bool.not_true, Bool.false_and,
      if_neg Bool.false_ne_true]
    omega

namespace LongMethod

theorem details_of_detect {m : Method} {k : Class} {path : Option String} {given : Entries}
    {r : Result} (h : detector.detect (.ofMethod m k path) given = .ok (some r)) :
    r.details = (findings m).toValue ⟨given, detector.defaults⟩ := by
  obtain ⟨-, v, hv, rfl⟩ := Detector.detect_eq_some_iff.mp h
  obtain ⟨b, -, hv⟩ := bind_eq_ok_iff.mp hv
  cases hv
  rfl

/-- The results on two methods are told apart by their numbers of suspensions. -/
theorem suspensions_eq_of_detect {m m' : Method} {k : Class} {path : Option String}
    (h : detector.detect (.ofMethod m' k path) [] = detector.detect (.ofMethod m k path) []) :
    (findings m').suspensions = (findings m).suspensions := by
  obtain ⟨r, hr⟩ : ∃ r, detector.detect (.ofMethod m k path) [] = .ok (some r) :=
    detector_total.exists_result (usable_of_given (by simp [Catalog.detectors]) nofun) rfl
      (Applies.bind fun b ↦ applies_some _)
  have hdetails := details_of_detect hr
  rw [details_of_detect (h.trans hr)] at hdetails
  simp only [Findings.toValue, Value.count, Value.table.injEq, List.cons.injEq, Prod.mk.injEq,
    Value.whole.injEq, Int.natCast_inj, true_and] at hdetails
  exact hdetails.2.2.1

/-- What a comment after a code line changes in the verdict on a long method. Lines, complexity and
severity stay. The suspensions rise by one when the line does not suspend and the comment holds a
suspending word, and stay otherwise; and exactly when they stay, the whole result stays at every
place and under all thresholds.

Assumes: the line is code, and its quotes are closed. -/
theorem trailing_comment_unread_iff {m : Method} {i : ℕ} {line : SourceLine}
    (hline : m.lines[i]? = some line) (hcode : line.isCode = true)
    (hclosed : QuotesClosed line.text.toList) (comment : String) :
    let m' := { m with lines := m.lines.set i (line.annotate comment) }
    (findings m').linesOfCode = (findings m).linesOfCode ∧
    (findings m').complexity = (findings m).complexity ∧
    (findings m').severity = (findings m).severity ∧
    (findings m').suspensions = (findings m).suspensions +
      (if !line.suspends && mentionsSuspension comment then 1 else 0) ∧
    ((∀ (k : Class) (path : Option String) (given : Entries),
        detector.detect (.ofMethod m' k path) given = detector.detect (.ofMethod m k path) given) ↔
      line.suspends = true ∨ mentionsSuspension comment = false) := by
  intro m'
  have hlines : (findings m').linesOfCode = (findings m).linesOfCode := List.length_set
  have hcomplexity : (findings m').complexity = (findings m).complexity :=
    cyclomaticComplexity_annotated (forall₂_set hline (.comment hcode hclosed comment))
  have hsuspensions := suspensionCount_annotate hline hcode comment
  have hseverity : (findings m').severity = (findings m).severity := by
    rw [Findings.severity, Findings.severity, hlines, hcomplexity]
  refine ⟨hlines, hcomplexity, hseverity, hsuspensions, fun hdetect ↦ ?_, fun hstays ↦ ?_⟩
  · have hsame := suspensions_eq_of_detect (hdetect default none [])
    by_contra hreads
    have hrises : (!line.suspends && mentionsSuspension comment) = true := by simpa using hreads
    rw [if_pos hrises] at hsuspensions
    exact absurd (hsuspensions.symm.trans hsame) (Nat.succ_ne_self _)
  · have hzero : (!line.suspends && mentionsSuspension comment) = false := by
      rcases hstays with hstays | hstays <;> simp [hstays]
    rw [hzero] at hsuspensions
    have hfindings : findings m' = findings m := by
      rw [findings, findings, Findings.mk.injEq]
      exact ⟨hlines, hcomplexity, hsuspensions⟩
    intro k path given
    simp only [Detector.detect, detector, hfindings]
    rfl

/-- A comment without a suspending word is not read, also where the line has a string with a number
sign in it and the comment opens a string that does not end. -/
theorem trailing_comment_unread_iff_quoted :
    let line : SourceLine := ⟨"\thp += step(\"it's # 1\")", some 2⟩
    (oneLiner line.text).lines[0]? = some line ∧ line.isCode = true ∧
      QuotesClosed line.text.toList ∧
      ∀ (k : Class) (path : Option String) (given : Entries),
        detector.detect (.ofMethod (oneLiner (line.text ++ "#" ++ " if 'or awaits")) k path) given =
          detector.detect (.ofMethod (oneLiner line.text) k path) given := by
  intro line
  have hcode : line.isCode = true := by decide +kernel
  have hclosed : QuotesClosed line.text.toList := by decide +kernel
  refine ⟨rfl, hcode, hclosed, ?_⟩
  exact (trailing_comment_unread_iff (m := oneLiner line.text) (i := 0) rfl hcode hclosed
    " if 'or awaits").2.2.2.2.mpr (Or.inr (by decide +kernel))

/-- A comment with a suspending word is counted as a suspension: the count rises from nought to one,
and where no suspension is allowed the smell is detected. -/
theorem comment_counted_as_suspension :
    let line : SourceLine := ⟨"\thp += 1", some 2⟩
    let m := oneLiner line.text
    let m' := oneLiner (line.annotate " await the next frame").text
    let k : Class := ⟨"Hero", [], [m], none, [], false, none, []⟩
    line.isCode = true ∧ QuotesClosed line.text.toList ∧ line.suspends = false ∧
      (findings m).suspensions = 0 ∧ (findings m').suspensions = 1 ∧
      ((detector.detect (.ofMethod m k none) [("max_yields", .whole 0)]).map
        fun r ↦ r.map (·.detected)) = .ok (some false) ∧
      ((detector.detect (.ofMethod m' k none) [("max_yields", .whole 0)]).map
        fun r ↦ r.map (·.detected)) = .ok (some true) := by
  decide +kernel

end LongMethod

end CodeSmells
