import CodeSmells.Proofs.Report.Aggregation
import CodeSmells.Proofs.Value.Written

/-!
# What decides the markup of a page

A report as a page puts texts of the analysed project between tags: names of the project, of files,
classes and methods, and whole records with source lines in them. `markup_of_severities` says that
none of these texts shows in the markup. Two outcomes with as many sections, and with the same
severities in each, get pages with the same sequence of tags, and every angle bracket of a page
stands in the part that is fixed.

The fixed part is a `template`: pieces of text with gaps between them, computed from the severities
alone. `page_fills` shows that a page is its template with texts in the gaps that hold no angle
bracket, from one lemma for each part of the page (`severityRow_fills`, `smellItem_fills`,
`sectionBlock_fills`). What a reader of tags finds in a filled template is then what it finds in the
pieces (`markupTokens_of_fills`), because every piece closes the brackets that it opens
(`template_closed`).

Details hold whole numbers of any length, and one that is too long to be written leaves an outcome
without a page. `writes_page` says that this is the only way to have none.
-/

set_option autoImplicit false
set_option relaxedAutoImplicit false

namespace CodeSmells.Report

/-! ### Brackets and tags -/

/-- The two characters that markup is made of. -/
def isBracket (c : Char) : Bool :=
  c == '<' || c == '>'

/-- The start of a text up to its first closing bracket, which is included. -/
def upToClosing? : List Char → Option (List Char)
  | [] => none
  | c :: cs => if c == '>' then some [c] else (upToClosing? cs).map (c :: ·)

/-- The tags of a text: from each opening bracket to the next closing one. -/
def markupTokens : List Char → List (List Char)
  | [] => []
  | c :: cs =>
    if c == '<' then (upToClosing? (c :: cs)).toList ++ markupTokens cs else markupTokens cs

/-- Whether every opening bracket is followed by a closing one. -/
def isClosed : List Char → Bool
  | [] => true
  | c :: cs => (c != '<' || (upToClosing? (c :: cs)).isSome) && isClosed cs

theorem upToClosing?_append {cs : List Char} (hcs : (upToClosing? cs).isSome) (ds : List Char) :
    upToClosing? (cs ++ ds) = upToClosing? cs := by
  induction cs with
  | nil => cases hcs
  | cons c cs ih =>
    rw [List.cons_append, upToClosing?, upToClosing?]
    by_cases hc : c = '>'
    · simp [hc]
    · have hrest : (upToClosing? cs).isSome := by simpa [upToClosing?, hc] using hcs
      rw [ih hrest]

/-- What follows a text that closes its brackets does not change the tags in it. -/
theorem markupTokens_append {cs : List Char} (hcs : isClosed cs) (ds : List Char) :
    markupTokens (cs ++ ds) = markupTokens cs ++ markupTokens ds := by
  induction cs with
  | nil => rfl
  | cons c cs ih =>
    rw [isClosed, Bool.and_eq_true] at hcs
    rw [List.cons_append, markupTokens, markupTokens, ih hcs.2]
    by_cases hc : c = '<'
    · have hfound : (upToClosing? (c :: cs)).isSome := by simpa [hc] using hcs.1
      rw [← List.cons_append, upToClosing?_append hfound, if_pos (by simpa using hc),
        if_pos (by simpa using hc), List.append_assoc]
    · simp [hc]

/-- A text without angle brackets. -/
def Bare (s : String) : Prop :=
  ∀ c ∈ s.toList, isBracket c = false

theorem markupTokens_append_of_bare {s : String} (hs : Bare s) (ds : List Char) :
    markupTokens (s.toList ++ ds) = markupTokens ds := by
  rw [Bare] at hs
  generalize s.toList = cs at hs
  induction cs with
  | nil => rfl
  | cons c cs ih =>
    rw [List.forall_mem_cons] at hs
    have hc : c ≠ '<' := by
      rintro rfl
      exact absurd hs.1 (by decide)
    rw [List.cons_append, markupTokens, if_neg (by simpa using hc), ih hs.2]

/-! ### Templates -/

/-- A piece of a template: a fixed text, or a gap for a text of the analysed project. -/
inductive Piece where
  | fixed (s : String)
  | gap

namespace Piece

/-- The brackets of a piece. -/
def brackets : Piece → List Char
  | fixed s => s.toList.filter isBracket
  | gap => []

/-- The tags of a piece. -/
def tokens : Piece → List (List Char)
  | fixed s => markupTokens s.toList
  | gap => []

/-- Whether a piece closes the brackets that it opens. -/
def closed : Piece → Bool
  | fixed s => isClosed s.toList
  | gap => true

end Piece

/-- A text that is a template with texts without brackets in its gaps. -/
inductive Fills : List Piece → String → Prop
  | nil : Fills [] ""
  | fixed (s : String) {t : List Piece} {rest : String} :
      Fills t rest → Fills (.fixed s :: t) (s ++ rest)
  | gap {s : String} (hs : Bare s) {t : List Piece} {rest : String} :
      Fills t rest → Fills (.gap :: t) (s ++ rest)

namespace Fills

theorem single (s : String) : Fills [.fixed s] s := by
  simpa using Fills.fixed s .nil

theorem hole {s : String} (hs : Bare s) : Fills [.gap] s := by
  simpa using Fills.gap hs .nil

theorem append {t u : List Piece} {s r : String} (hs : Fills t s) (hr : Fills u r) :
    Fills (t ++ u) (s ++ r) := by
  induction hs with
  | nil => simpa using hr
  | fixed s _ ih =>
    rw [String.append_assoc]
    exact .fixed s ih
  | gap hs _ ih =>
    rw [String.append_assoc]
    exact .gap hs ih

/-- Parts that fill their templates fill, one after the other, the templates one after the other. -/
theorem join {α β : Type} {template : β → List Piece} {text : α → String} (part : α → β)
    (h : ∀ a, Fills (template (part a)) (text a)) (as : List α) :
    Fills ((as.map part).flatMap template) (String.join (as.map text)) := by
  induction as with
  | nil => exact .nil
  | cons a as ih =>
    rw [List.map_cons, List.map_cons, List.flatMap_cons, String.join_cons]
    exact (h a).append ih

/-- The same for parts of which each may fail. -/
theorem join_of_mapM {α β : Type} {template : β → List Piece} {text : α → Except String String}
    (part : α → β) (h : ∀ a s, text a = .ok s → Fills (template (part a)) s) {as : List α}
    {ss : List String} (hss : as.mapM text = .ok ss) :
    Fills ((as.map part).flatMap template) (String.join ss) := by
  induction as generalizing ss with
  | nil =>
    cases hss
    exact .nil
  | cons a as ih =>
    obtain ⟨s, rest, hs, hrest, rfl⟩ := mapM_cons_eq_ok_iff.mp hss
    rw [List.map_cons, List.flatMap_cons, String.join_cons]
    exact (h a s hs).append (ih hrest)

end Fills

/-- The brackets of a filled template are those of its pieces. -/
theorem brackets_of_fills {t : List Piece} {s : String} (h : Fills t s) :
    s.toList.filter isBracket = t.flatMap Piece.brackets := by
  induction h with
  | nil => rfl
  | fixed s _ ih => rw [String.toList_append, List.filter_append, ih, List.flatMap_cons]; rfl
  | gap hs _ ih =>
    rw [String.toList_append, List.filter_append, ih, List.filter_eq_nil_iff.mpr fun c hc ↦ ?_]
    · rfl
    · exact Bool.eq_false_iff.mp (hs c hc)

/-- The tags of a filled template are those of its pieces, if these close their brackets. -/
theorem markupTokens_of_fills {t : List Piece} (hclosed : t.all Piece.closed) {s : String}
    (h : Fills t s) : markupTokens s.toList = t.flatMap Piece.tokens := by
  induction h with
  | nil => rfl
  | fixed s _ ih =>
    rw [List.all_cons, Bool.and_eq_true] at hclosed
    rw [String.toList_append, markupTokens_append hclosed.1, ih hclosed.2]
    rfl
  | gap hs _ ih =>
    rw [String.toList_append, markupTokens_append_of_bare hs]
    exact ih (by simpa [Piece.closed] using hclosed)

/-! ### The template of a page -/

/-- The name of a severity in the classes of list items. -/
def className (severity : Option Severity) : String :=
  String.ofList (((severity.map Severity.name).getD "").toList.map Char.toLower)

/-- A row of the table of severities: the count is a gap. -/
def rowTemplate (s : Severity) : List Piece :=
  [.fixed "<tr><td>", .fixed s.name, .fixed "</td><td>", .gap, .fixed "</td></tr>"]

/-- The list item of a smell: its name, its place and its details are gaps. -/
def itemTemplate (includeDetails : Bool) (severity : Option Severity) : List Piece :=
  ([.fixed ("<li class=\"" ++ className severity ++ "\">"), .fixed "<strong>", .gap,
    .fixed "</strong> ", .fixed "<span class=\"badge\">",
    .fixed ((severity.map Severity.name).getD ""), .fixed "</span> ", .gap] : List Piece) ++
    (if includeDetails then [.fixed "<pre>", .gap, .fixed "</pre>"] else [] : List Piece) ++
    ([.fixed "</li>"] : List Piece)

/-- A section: its heading is a gap. -/
def sectionTemplate (includeDetails : Bool) (severities : List (Option Severity)) : List Piece :=
  ([.fixed "<section><h2>", .gap, .fixed "</h2><ul>"] : List Piece) ++
    severities.flatMap (itemTemplate includeDetails) ++ ([.fixed "</ul></section>"] : List Piece)

/-- The lines of a page whose sections have the given severities. -/
def lineTemplates (includeDetails : Bool) (severities : List (List (Option Severity))) :
    List (List Piece) :=
  ([[.fixed "<!doctype html>"],
    [.fixed "<html>"],
    [.fixed "<head>"],
    [.fixed "  <meta charset=\"utf-8\" />"],
    [.fixed "  <title>Code smells: ", .gap, .fixed "</title>"]] : List (List Piece)) ++
  styleLines.map (fun line ↦ [.fixed line]) ++
  ([[.fixed "</head>"],
    [.fixed "<body>"],
    [.fixed "  <h1>Code smells: ", .gap, .fixed "</h1>"],
    [.fixed "  <p>", .gap, .fixed " smells in ", .gap, .fixed " files</p>"],
    .fixed "  <table>" :: Severity.all.reverse.flatMap rowTemplate ++ [.fixed "</table>"],
    .fixed "  " :: severities.flatMap (sectionTemplate includeDetails),
    [.fixed "</body>"],
    [.fixed "</html>"]] : List (List Piece))

/-- The fixed part of a page whose sections have the given severities. -/
def template (includeDetails : Bool) (severities : List (List (Option Severity))) : List Piece :=
  (lineTemplates includeDetails severities).flatMap (· ++ [.fixed "\n"])

/-- The severities in each section of a report. -/
def sectionSeverities (o : Outcome) (style : Style) : List (List (Option Severity)) :=
  (sections o style).map fun s ↦ s.smells.map (·.severity)

/-- The list item of a smell closes its brackets: its first tag and its badge depend on the
severity, the rest does not. -/
theorem itemTemplate_closed (includeDetails : Bool) (severity : Option Severity) :
    (itemTemplate includeDetails severity).all Piece.closed = true := by
  have hclass : (Piece.fixed ("<li class=\"" ++ className severity ++ "\">")).closed = true := by
    rcases severity with _ | s
    · decide +kernel
    · cases s <;> decide +kernel
  have hbadge : (Piece.fixed ((severity.map Severity.name).getD "")).closed = true := by
    rcases severity with _ | s
    · decide +kernel
    · cases s <;> decide +kernel
  rw [itemTemplate, List.all_append, List.all_append]
  simp only [List.all_cons, hclass, hbadge]
  cases includeDetails <;> decide +kernel

theorem sectionTemplate_closed (includeDetails : Bool) (severities : List (Option Severity)) :
    (sectionTemplate includeDetails severities).all Piece.closed = true := by
  have hitems : (severities.flatMap (itemTemplate includeDetails)).all Piece.closed = true := by
    rw [List.all_flatMap, List.all_eq_true]
    exact fun severity _ ↦ itemTemplate_closed includeDetails severity
  rw [sectionTemplate, List.all_append, List.all_append, hitems]
  decide +kernel

/-- A literal is compared with its characters here: reading them off it takes far longer. -/
theorem fixed_closed {cs : List Char} (hcs : isClosed cs = true) :
    (Piece.fixed (String.ofList cs)).closed = true := by
  rwa [Piece.closed, String.toList_ofList]

theorem styleLines_closed :
    (styleLines.map fun line ↦ [Piece.fixed line]).all (·.all Piece.closed) = true := by
  simp only [styleLines, List.map_cons, List.map_nil, List.all_cons, List.all_nil, Bool.and_true,
    Bool.and_eq_true]
  repeat' apply And.intro
  all_goals exact fixed_closed (by decide)

/-- Every piece of a template closes the brackets that it opens. -/
theorem template_closed (includeDetails : Bool) (severities : List (List (Option Severity))) :
    (template includeDetails severities).all Piece.closed = true := by
  have hsections :
      (severities.flatMap (sectionTemplate includeDetails)).all Piece.closed = true := by
    rw [List.all_flatMap, List.all_eq_true]
    exact fun severities _ ↦ sectionTemplate_closed includeDetails severities
  have hlines : (lineTemplates includeDetails severities).all (·.all Piece.closed) = true := by
    rw [lineTemplates, List.all_append, List.all_append, styleLines_closed]
    simp only [List.all_cons, hsections]
    decide +kernel
  rw [template, List.all_flatMap]
  refine List.all_eq_true.mpr fun line hline ↦ ?_
  rw [List.all_append, List.all_eq_true.mp hlines line hline]
  decide +kernel

/-! ### Pages fill their templates -/

theorem not_isBracket_of_mem {cs : List Char} (hcs : cs.any isBracket = false) {c : Char}
    (hc : c ∈ cs) : isBracket c = false :=
  Bool.not_eq_true _ ▸ List.any_eq_false.mp hcs c hc

theorem escape_bare (s : String) : Bare (escape s) := by
  intro c hc
  rw [escape, String.toList_ofList, List.mem_flatMap] at hc
  obtain ⟨d, -, hd⟩ := hc
  rw [escapeChar] at hd
  split_ifs at hd with hamp hless hgreater hdouble hsingle
  iterate 5
    exact not_isBracket_of_mem (by decide) hd
  rw [List.mem_singleton.mp hd, isBracket]
  simp [hless, hgreater]

theorem toString_bare (n : ℕ) : Bare (toString n) := by
  intro c hc
  rw [Nat.toString_eq_repr, Nat.toList_repr] at hc
  have hdigit := Nat.isDigit_of_mem_toDigits (by decide) (by decide) hc
  rw [isBracket, Bool.or_eq_false_iff, beq_eq_false_iff_ne, beq_eq_false_iff_ne]
  constructor
  all_goals
    rintro rfl
    exact absurd hdigit (by decide)

/-- The names of severities hold nothing that is escaped. -/
theorem escape_severityName (severity : Option Severity) :
    escape ((severity.map Severity.name).getD "") = (severity.map Severity.name).getD "" ∧
      escape (className severity) = className severity := by
  rcases severity with _ | s
  · exact ⟨rfl, rfl⟩
  · cases s <;> exact ⟨rfl, rfl⟩

theorem severityRow_fills (s : Severity) (n : ℕ) : Fills (rowTemplate s) (severityRow s n) := by
  have hname : escape s.name = s.name := (escape_severityName (some s)).1
  rw [severityRow, hname]
  exact ((((Fills.single _).append (.single _)).append (.single _)).append
    (.hole (toString_bare n))).append (.single _)

theorem detailBlock_fills {style : Style} {r : Result} {s : String}
    (h : detailBlock style r = .ok s) :
    Fills (if style.includeDetails then [.fixed "<pre>", .gap, .fixed "</pre>"] else []) s := by
  rw [detailBlock] at h
  split at h
  · next hdetails =>
    obtain ⟨details, -, h⟩ := bind_eq_ok_iff.mp h
    rw [if_pos hdetails, ← pure_eq_ok_iff.mp h]
    exact ((Fills.single _).append (.hole (escape_bare _))).append (.single _)
  · next hplain =>
    rw [if_neg hplain, ← pure_eq_ok_iff.mp h]
    exact .nil

theorem smellItem_fills {style : Style} {r : Result} {s : String} (h : smellItem style r = .ok s) :
    Fills (itemTemplate style.includeDetails r.severity) s := by
  have hbadge : escape (severityName r) = severityName r := (escape_severityName r.severity).1
  have hclass : escape (String.ofList ((severityName r).toList.map Char.toLower)) =
      className r.severity := (escape_severityName r.severity).2
  have hhead := (Fills.single ("<li class=\"" ++ className r.severity ++ "\">")).append
    (.single "<strong>")
  have hname := (hhead.append (.hole (escape_bare r.smell))).append (.single "</strong> ")
  have hseverity := ((hname.append (.single "<span class=\"badge\">")).append
    (.single (severityName r))).append (.single "</span> ")
  have hplace := hseverity.append (.hole (escape_bare r.location.describe))
  unfold smellItem at h
  obtain ⟨details, hdetails, h⟩ := bind_eq_ok_iff.mp h
  rewrite [hbadge, hclass] at h
  rw [← pure_eq_ok_iff.mp h]
  exact (hplace.append (detailBlock_fills hdetails)).append (.single "</li>")

theorem sectionBlock_fills {style : Style} {s : Section} {block : String}
    (h : sectionBlock style s = .ok block) :
    Fills (sectionTemplate style.includeDetails (s.smells.map (·.severity))) block := by
  have hhead := ((Fills.single "<section><h2>").append (.hole (escape_bare s.heading))).append
    (.single "</h2><ul>")
  obtain ⟨items, hitems, h⟩ := bind_eq_ok_iff.mp h
  rw [← pure_eq_ok_iff.mp h]
  exact (hhead.append (.join_of_mapM Result.severity (fun _ _ ↦ smellItem_fills) hitems)).append
    (.single "</ul></section>")

theorem intercalate_newline {lines : List String} (hlines : lines ≠ []) :
    String.intercalate "\n" lines ++ "\n" = String.join (lines.map (· ++ "\n")) := by
  obtain ⟨line, rest, rfl⟩ := List.exists_cons_of_ne_nil hlines
  induction rest generalizing line with
  | nil => simp
  | cons next rest ih =>
    rw [String.intercalate_cons_cons, String.append_assoc, ih next (List.cons_ne_nil _ _)]
    exact String.join_cons.symm

theorem pageLines_fill {o : Outcome} {style : Style} {blocks : List String}
    (h : (sections o style).mapM (sectionBlock style) = .ok blocks) :
    List.Forall₂ Fills (lineTemplates style.includeDetails (sectionSeverities o style))
      (pageLines o blocks) := by
  have htitle := ((Fills.single "  <title>Code smells: ").append
    (.hole (escape_bare o.project.name))).append (.single "</title>")
  have hheading := ((Fills.single "  <h1>Code smells: ").append
    (.hole (escape_bare o.project.name))).append (.single "</h1>")
  have hcounts := ((((Fills.single "  <p>").append (.hole (toString_bare o.detected.length))).append
    (.single " smells in ")).append (.hole (toString_bare o.filesWithSmells))).append
      (.single " files</p>")
  have hrows : Fills ((o.severityCounts.map (·.1)).flatMap rowTemplate)
      (String.join (o.severityCounts.map fun row ↦ severityRow row.1 row.2)) :=
    .join Prod.fst (fun row ↦ severityRow_fills row.1 row.2) o.severityCounts
  rw [map_fst_severityCounts] at hrows
  have htable := ((Fills.single "  <table>").append hrows).append (.single "</table>")
  have hblocks : Fills ((sectionSeverities o style).flatMap (sectionTemplate style.includeDetails))
      (String.join blocks) :=
    .join_of_mapM (fun s ↦ s.smells.map (·.severity)) (fun _ _ ↦ sectionBlock_fills) h
  have hsections := (Fills.single "  ").append hblocks
  refine List.rel_append (List.rel_append ?_ ?_) ?_
  · exact .cons (.single _) (.cons (.single _) (.cons (.single _) (.cons (.single _)
      (.cons htitle .nil))))
  · exact List.forall₂_map_left_iff.mpr (List.forall₂_same.mpr fun line _ ↦ .single line)
  · exact .cons (.single _) (.cons (.single _) (.cons hheading (.cons hcounts (.cons htable
      (.cons hsections (.cons (.single _) (.cons (.single _) .nil)))))))

/-- A page is its template with texts without brackets in the gaps. -/
theorem page_fills {o : Outcome} {style : Style} {p : String} (h : page o style = .ok p) :
    Fills (template style.includeDetails (sectionSeverities o style)) p := by
  have hlines : ∀ {ts : List (List Piece)} {ls : List String}, List.Forall₂ Fills ts ls →
      Fills (ts.flatMap (· ++ [.fixed "\n"])) (String.join (ls.map (· ++ "\n"))) := by
    intro ts ls h
    induction h with
    | nil => exact .nil
    | cons hline _ ih =>
      rw [List.flatMap_cons, List.map_cons, String.join_cons]
      exact (hline.append (.single "\n")).append ih
  obtain ⟨blocks, hblocks, h⟩ := bind_eq_ok_iff.mp h
  have hne : pageLines o blocks ≠ [] := List.cons_ne_nil _ _
  rw [← pure_eq_ok_iff.mp h, intercalate_newline hne]
  exact hlines (pageLines_fill hblocks)

/-! ### Which outcomes have a page -/

/-- The whole numbers that are shown with a smell. -/
def detailNumbers (style : Style) (r : Result) : List ℤ :=
  if style.includeDetails then r.details.wholes else []

/-- The whole numbers in the details on a page. -/
def pageNumbers (o : Outcome) (style : Style) : List ℤ :=
  (sections o style).flatMap fun s ↦ s.smells.flatMap (detailNumbers style)

theorem writes_smellItem (style : Style) (r : Result) :
    Writes (detailNumbers style r) (smellItem style r) := by
  have hblock : Writes (detailNumbers style r) (detailBlock style r) := by
    rw [detailNumbers, detailBlock]
    split
    · exact (Json.writes_indented r.details).bind_pure _
    · exact .pure ""
  exact hblock.bind_pure _

/-- A page is written exactly when no whole number in the details on it is too long. -/
theorem writes_page (o : Outcome) (style : Style) : Writes (pageNumbers o style) (page o style) :=
  (Writes.mapM fun _ _ ↦
    (Writes.mapM fun r _ ↦ writes_smellItem style r).bind_pure _).bind_pure _

/-- The markup of a page is decided by the severities in its sections. Two outcomes that agree in
them get pages with the same tags, whatever texts the pages hold; either page is the same template
with texts without brackets in its gaps, so that its brackets are those of the template. An outcome
has a page unless one of the whole numbers in the details on it is too long to be written.

Assumes: as many sections in both reports, and the same severities in each. -/
theorem markup_of_severities (o o' : Outcome) (style : Style)
    (hseverities : sectionSeverities o' style = sectionSeverities o style) :
    (∀ p p', page o style = .ok p → page o' style = .ok p' →
      markupTokens p'.toList = markupTokens p.toList) ∧
    (∀ p, page o style = .ok p ∨ page o' style = .ok p →
      Fills (template style.includeDetails (sectionSeverities o style)) p ∧
      p.toList.filter isBracket =
        (template style.includeDetails (sectionSeverities o style)).flatMap Piece.brackets) ∧
    Writes (pageNumbers o style) (page o style) ∧
    Writes (pageNumbers o' style) (page o' style) := by
  have hclosed := template_closed style.includeDetails (sectionSeverities o style)
  have hfills (p : String) (hp : page o style = .ok p ∨ page o' style = .ok p) :
      Fills (template style.includeDetails (sectionSeverities o style)) p := by
    rcases hp with hp | hp
    · exact page_fills hp
    · rw [← hseverities]
      exact page_fills hp
  refine ⟨fun p p' hp hp' ↦ ?_, fun p hp ↦ ⟨hfills p hp, brackets_of_fills (hfills p hp)⟩,
    writes_page o style, writes_page o' style⟩
  rw [markupTokens_of_fills hclosed (hfills p (.inl hp)),
    markupTokens_of_fills hclosed (hfills p' (.inr hp'))]

/-- A source whose name is a tag gets the markup of any other source. -/
theorem markup_of_severities_script :
    sectionSeverities (oneSmellEach ["<script>.gd"]) {} = [[some .low]] ∧
    ∃ p p', page (oneSmellEach ["<script>.gd"]) {} = .ok p ∧
      page (oneSmellEach ["player.gd"]) {} = .ok p' ∧
      markupTokens p.toList = markupTokens p'.toList := by
  have hscript : sectionSeverities (oneSmellEach ["<script>.gd"]) {} = [[some .low]] := by
    decide +kernel
  have hplayer : sectionSeverities (oneSmellEach ["player.gd"]) {} = [[some .low]] := by
    decide +kernel
  obtain ⟨hsame, -, hwrites', hwrites⟩ := markup_of_severities (oneSmellEach ["player.gd"])
    (oneSmellEach ["<script>.gd"]) {} (hscript.trans hplayer.symm)
  obtain ⟨p, hp⟩ := hwrites.ok (by decide +kernel)
  obtain ⟨p', hp'⟩ := hwrites'.ok (by decide +kernel)
  exact ⟨hscript, p, p', hp, hp', hsame p' p hp' hp⟩

end CodeSmells.Report
