import CodeSmells.Proofs.Text.Blank
import CodeSmells.Text.Literal

/-!
# Literals and comments

The pieces of a text are its string literals and the characters outside of them, found from left to
right: a quotation mark opens a literal only when a mark of the same kind closes it further on. What
comes later in a text may therefore change what is a literal before it. It does not when every
quotation mark before the comment belongs to a literal, which is `QuotesClosed`.
`codeOf_append_comment` says that a comment after such a text, whatever quotation marks, escapes and
number signs stand in it, is no part of the code.

A comment is cut off in two ways: at the first number sign once the literals are emptied, and at the
first one outside of the literals. `comment_cut_before_or_after_literals` says that both agree on
every text, quotes that are not closed included. They do because a text that is cut opens no literal
that it did not open before (`literal?_eq_none_of_cut`), so that the scan finds the same pieces
up to the cut (`pieces_stripTrailingComment`).

`IsLiteral` gives the form of a literal and `QuotesClosed` the form of a text, both without a scan.
A literal is found wherever it stands (`IsLiteral.read`), and nothing else is
(`of_literal?_eq_some`), so that a text is empty, starts with a literal, or starts with a character
that opens none (`pieces_induction`). Texts without quotation marks change no piece before or after
them (`pieces_append_left`, `pieces_append_right`), and blanks are such texts (`codePieces_blanks`).
-/

set_option autoImplicit false
set_option relaxedAutoImplicit false

namespace CodeSmells.Text

/-! ### One literal -/

/-- The rest of a literal after its opening mark: escapes and characters other than the mark, and
the mark again. -/
inductive LiteralBody (mark : Char) : List Char → Prop
  | close : LiteralBody mark [mark]
  | escape {c : Char} {cs : List Char} (hc : c ≠ '\n') (hcs : LiteralBody mark cs) :
      LiteralBody mark ('\\' :: c :: cs)
  | plain {c : Char} {cs : List Char} (hmark : c ≠ mark) (hescape : c ≠ '\\')
      (hcs : LiteralBody mark cs) : LiteralBody mark (c :: cs)

/-- A whole literal with its two marks. -/
inductive IsLiteral : List Char → Prop
  | intro {mark : Char} {body : List Char} (hmark : notQuoteMark mark = false)
      (hbody : LiteralBody mark body) : IsLiteral (mark :: body)

theorem ne_backslash_of_quoteMark {mark : Char} (h : notQuoteMark mark = false) : mark ≠ '\\' := by
  rintro rfl
  cases h

theorem literalBody?_cons {mark c : Char} (hc : c ≠ '\\') (cs : List Char) :
    literalBody? mark (c :: cs) =
      if c == mark then some [c] else (literalBody? mark cs).map (c :: ·) := by
  rw [literalBody?]
  · simp [hc]
  · rintro d ds rfl -
    exact hc rfl

theorem LiteralBody.read {mark : Char} (hmark : mark ≠ '\\') {body : List Char}
    (h : LiteralBody mark body) (rest : List Char) :
    literalBody? mark (body ++ rest) = some body := by
  induction h with
  | close => rw [List.singleton_append, literalBody?_cons hmark, if_pos (beq_self_eq_true mark)]
  | escape hc _ ih =>
    rw [List.cons_append, List.cons_append, literalBody?, if_neg (by simpa using hc), ih,
      Option.map_some]
  | plain hother hescape _ ih =>
    rw [List.cons_append, literalBody?_cons hescape, if_neg (by simpa using hother), ih,
      Option.map_some]

theorem of_literalBody?_eq_some {mark : Char} {cs body : List Char}
    (h : literalBody? mark cs = some body) : body <+: cs ∧ LiteralBody mark body := by
  fun_induction literalBody? mark cs generalizing body with
  | case1 => cases h
  | case2 c cs hfeed => cases h
  | case3 c cs hfeed ih =>
    obtain ⟨inner, hinner, rfl⟩ := Option.map_eq_some_iff.mp h
    obtain ⟨hpart, hbody⟩ := ih hinner
    exact ⟨(List.prefix_cons_inj _).mpr ((List.prefix_cons_inj _).mpr hpart),
      .escape (by simpa using hfeed) hbody⟩
  | case4 c cs hescape hfound =>
    cases h
    obtain rfl : c = mark := by simpa using hfound
    exact ⟨⟨cs, rfl⟩, .close⟩
  | case5 => cases h
  | case6 c cs hescape hfound hplain ih =>
    obtain ⟨inner, hinner, rfl⟩ := Option.map_eq_some_iff.mp h
    obtain ⟨hpart, hbody⟩ := ih hinner
    exact ⟨(List.prefix_cons_inj _).mpr hpart,
      .plain (by simpa using hfound) (by simpa using hplain) hbody⟩

/-- A literal is found wherever it stands. -/
theorem IsLiteral.read {lit : List Char} (h : IsLiteral lit) (rest : List Char) :
    literal? (lit ++ rest) = some lit := by
  obtain ⟨hmark, hbody⟩ := h
  rw [List.cons_append, literal?, if_pos, hbody.read (ne_backslash_of_quoteMark hmark),
    Option.map_some]
  simpa [notQuoteMark, Classical.or_iff_not_imp_left] using hmark

theorem IsLiteral.ne_nil {lit : List Char} (h : IsLiteral lit) : lit ≠ [] := by
  cases h
  exact List.cons_ne_nil _ _

/-- Only literals are found. -/
theorem of_literal?_eq_some {cs lit : List Char} (h : literal? cs = some lit) :
    lit <+: cs ∧ IsLiteral lit := by
  cases cs with
  | nil => cases h
  | cons c cs =>
    rw [literal?] at h
    split at h
    · next hquote =>
      obtain ⟨body, hbody, rfl⟩ := Option.map_eq_some_iff.mp h
      obtain ⟨hpart, hbody⟩ := of_literalBody?_eq_some hbody
      have hmark : notQuoteMark c = false := by
        simpa [notQuoteMark, Classical.or_iff_not_imp_left] using hquote
      exact ⟨(List.prefix_cons_inj c).mpr hpart, .intro hmark hbody⟩
    · cases h

theorem literal?_of_notQuoteMark {c : Char} (hc : notQuoteMark c = true) (cs : List Char) :
    literal? (c :: cs) = none := by
  rw [literal?, if_neg]
  simpa [notQuoteMark] using hc

theorem LiteralBody.getLast? {mark : Char} {body : List Char} (h : LiteralBody mark body) :
    body.getLast? = some mark := by
  induction h with
  | close => rfl
  | escape _ _ ih => simp [List.getLast?_cons, ih]
  | plain _ _ _ ih => simp [List.getLast?_cons, ih]

theorem IsLiteral.exists_getLast? {lit : List Char} (h : IsLiteral lit) :
    ∃ mark, lit.getLast? = some mark ∧ notQuoteMark mark = false := by
  obtain ⟨hmark, hbody⟩ := h
  exact ⟨_, by rw [List.getLast?_cons, hbody.getLast?, Option.getD_some], hmark⟩

/-- A part of a text whose last character is missing at the end of the text stands before that
end. -/
theorem prefix_of_prefix_append {part cs ds : List Char} {last : Char}
    (h : part <+: cs ++ ds) (hlast : part.getLast? = some last) (hds : last ∉ ds) :
    part <+: cs := by
  rcases List.prefix_or_prefix_of_prefix h (List.prefix_append cs ds) with hin | ⟨tail, rfl⟩
  · exact hin
  · have htail : tail <+: ds := (List.prefix_append_right_inj cs).mp h
    by_cases hempty : tail = []
    · simp [hempty]
    · rw [List.getLast?_append_of_ne_nil cs hempty] at hlast
      exact (hds (htail.subset (List.mem_of_getLast? hlast))).elim

/-- A text that opens no literal opens none either when it is cut. -/
theorem literal?_eq_none_of_cut {cs ds : List Char} (hpart : cs <+: ds)
    (h : literal? ds = none) : literal? cs = none := by
  cases hread : literal? cs with
  | none => rfl
  | some lit =>
    obtain ⟨hlead, hlit⟩ := of_literal?_eq_some hread
    obtain ⟨rest, rfl⟩ := hlead.trans hpart
    rw [hlit.read] at h
    cases h

/-- A text without quotation marks completes no literal. -/
theorem literal?_append (cs : List Char) {ds : List Char}
    (hds : ∀ d ∈ ds, notQuoteMark d = true) : literal? (cs ++ ds) = literal? cs := by
  cases hread : literal? (cs ++ ds) with
  | some lit =>
    obtain ⟨hpart, hlit⟩ := of_literal?_eq_some hread
    obtain ⟨mark, hlast, hmark⟩ := hlit.exists_getLast?
    have hmem : mark ∉ ds := fun hin ↦ Bool.false_ne_true (hmark.symm.trans (hds mark hin))
    obtain ⟨rest, rfl⟩ := prefix_of_prefix_append hpart hlast hmem
    exact (hlit.read rest).symm
  | none => exact (literal?_eq_none_of_cut (List.prefix_append cs ds) hread).symm

/-! ### The pieces of a text -/

theorem piecesFrom_length (front rest : List Char) :
    piecesFrom front.length (front ++ rest) = pieces rest := by
  induction front with
  | nil => rfl
  | cons c front ih => exact ih

/-- A literal at the start is a piece. -/
theorem pieces_literal {lit : List Char} (h : IsLiteral lit) (rest : List Char) :
    pieces (lit ++ rest) = .literal lit :: pieces rest := by
  have hread := h.read rest
  obtain ⟨c, body, rfl⟩ := List.exists_cons_of_ne_nil h.ne_nil
  rw [List.cons_append] at hread
  rw [pieces, List.cons_append, piecesFrom, hread]
  exact congrArg _ (piecesFrom_length body rest)

/-- A character that opens no literal is a piece. -/
theorem pieces_plain {c : Char} {cs : List Char} (h : literal? (c :: cs) = none) :
    pieces (c :: cs) = .plain c :: pieces cs := by
  rw [pieces, piecesFrom, h]
  rfl

/-- A text is empty, starts with a literal, or starts with a character that opens none. -/
@[elab_as_elim]
theorem pieces_induction {P : List Char → Prop} (nil : P [])
    (literal : ∀ lit rest : List Char, IsLiteral lit → P rest → P (lit ++ rest))
    (plain : ∀ (c : Char) (cs : List Char), literal? (c :: cs) = none → P cs → P (c :: cs))
    (cs : List Char) : P cs := by
  induction hlength : cs.length using Nat.strong_induction_on generalizing cs with
  | _ n ih =>
    subst hlength
    cases cs with
    | nil => exact nil
    | cons c cs =>
      cases hread : literal? (c :: cs) with
      | none => exact plain c cs hread (ih cs.length (by simp) cs rfl)
      | some lit =>
        obtain ⟨⟨rest, hrest⟩, hlit⟩ := of_literal?_eq_some hread
        have hlt : rest.length < (c :: cs).length := by
          rw [← hrest, List.length_append]
          exact Nat.lt_add_of_pos_left (List.length_pos_iff.mpr hlit.ne_nil)
        rw [← hrest]
        exact literal lit rest hlit (ih rest.length hlt rest rfl)

/-- A text without quotation marks changes no piece after it. -/
theorem pieces_append_left {front : List Char} (hfront : ∀ c ∈ front, notQuoteMark c = true)
    (rest : List Char) : pieces (front ++ rest) = front.map .plain ++ pieces rest := by
  induction front with
  | nil => rfl
  | cons c front ih =>
    rw [List.forall_mem_cons] at hfront
    rw [List.cons_append, pieces_plain (literal?_of_notQuoteMark hfront.1 _), ih hfront.2,
      List.map_cons, List.cons_append]

/-- The pieces of a text without quotation marks are its characters. -/
theorem pieces_of_plain {cs : List Char} (hcs : ∀ c ∈ cs, notQuoteMark c = true) :
    pieces cs = cs.map .plain := by
  have happend := pieces_append_left hcs []
  rwa [List.append_nil, show pieces [] = [] from rfl, List.append_nil] at happend

/-- A text without quotation marks changes no piece before it. -/
theorem pieces_append_right (front : List Char) {rest : List Char}
    (hrest : ∀ c ∈ rest, notQuoteMark c = true) :
    pieces (front ++ rest) = pieces front ++ rest.map .plain := by
  induction front using pieces_induction with
  | nil => exact pieces_of_plain hrest
  | literal lit later hlit ih =>
    rw [List.append_assoc, pieces_literal hlit, pieces_literal hlit, ih, List.cons_append]
  | plain c cs hplain ih =>
    have hstill : literal? (c :: (cs ++ rest)) = none := by
      rw [← List.cons_append, literal?_append _ hrest, hplain]
    rw [List.cons_append, pieces_plain hstill, pieces_plain hplain, ih, List.cons_append]

/-! ### Text before a comment -/

/-- The pieces before the comment. -/
def codePieces (cs : List Char) : List Piece :=
  (pieces cs).takeWhile (!·.isCommentSign)

theorem codePieces_literal {lit : List Char} (h : IsLiteral lit) (rest : List Char) :
    codePieces (lit ++ rest) = .literal lit :: codePieces rest := by
  rw [codePieces, pieces_literal h]
  rfl

theorem codePieces_plain {c : Char} {cs : List Char} (h : literal? (c :: cs) = none)
    (hc : c ≠ '#') : codePieces (c :: cs) = .plain c :: codePieces cs := by
  rw [codePieces, pieces_plain h]
  simp [Piece.isCommentSign, hc, codePieces]

theorem codePieces_comment (cs : List Char) : codePieces ('#' :: cs) = [] := by
  rw [codePieces, pieces_plain (literal?_of_notQuoteMark (by decide) cs)]
  rfl

/-- Every quotation mark before the comment, or before the end of a text without a comment, belongs
to a literal. -/
inductive QuotesClosed : List Char → Prop
  | nil : QuotesClosed []
  | comment (cs : List Char) : QuotesClosed ('#' :: cs)
  | plain {c : Char} {cs : List Char} (hsign : c ≠ '#') (hquote : notQuoteMark c = true)
      (hcs : QuotesClosed cs) : QuotesClosed (c :: cs)
  | literal {lit cs : List Char} (hlit : IsLiteral lit) (hcs : QuotesClosed cs) :
      QuotesClosed (lit ++ cs)

/-- The scan tells whether the quotes are closed. -/
theorem quotesClosed_iff (cs : List Char) :
    QuotesClosed cs ↔ ∀ c, .plain c ∈ codePieces cs → notQuoteMark c = true := by
  constructor
  · intro h
    induction h with
    | nil => exact nofun
    | comment cs =>
      rw [codePieces_comment]
      exact nofun
    | plain hsign hquote _ ih =>
      rw [codePieces_plain (literal?_of_notQuoteMark hquote _) hsign]
      intro d hd
      rcases List.mem_cons.mp hd with hfirst | hlater
      · cases hfirst
        exact hquote
      · exact ih d hlater
    | literal hlit _ ih =>
      rw [codePieces_literal hlit]
      intro d hd
      rcases List.mem_cons.mp hd with hfirst | hlater
      · cases hfirst
      · exact ih d hlater
  · intro h
    induction cs using pieces_induction with
    | nil => exact .nil
    | literal lit rest hlit ih =>
      rw [codePieces_literal hlit] at h
      exact .literal hlit (ih fun d hd ↦ h d (List.mem_cons_of_mem _ hd))
    | plain c cs hplain ih =>
      by_cases hc : c = '#'
      · rw [hc]
        exact .comment cs
      · rw [codePieces_plain hplain hc] at h
        exact .plain hc (h c List.mem_cons_self) (ih fun d hd ↦ h d (List.mem_cons_of_mem _ hd))

/-- A quotation mark that opens no literal. -/
def Piece.isStrayMark : Piece → Bool
  | plain c => !notQuoteMark c
  | literal _ => false

instance : DecidablePred QuotesClosed := fun cs =>
  decidable_of_iff (∀ piece ∈ codePieces cs, piece.isStrayMark = false) <| by
    rw [quotesClosed_iff]
    constructor
    · intro h c hc
      simpa [Piece.isStrayMark] using h _ hc
    · intro h piece hpiece
      cases piece with
      | plain c => simp [Piece.isStrayMark, h c hpiece]
      | literal lit => rfl

/-- A comment after a text with closed quotes, whatever it says, leaves the pieces before it. -/
theorem codePieces_append_comment {cs : List Char} (h : QuotesClosed cs) (comment : List Char) :
    codePieces (cs ++ '#' :: comment) = codePieces cs := by
  induction h with
  | nil => exact codePieces_comment comment
  | comment cs => rw [List.cons_append, codePieces_comment, codePieces_comment]
  | plain hsign hquote _ ih =>
    rw [List.cons_append, codePieces_plain (literal?_of_notQuoteMark hquote _) hsign,
      codePieces_plain (literal?_of_notQuoteMark hquote _) hsign, ih]
  | literal hlit _ ih =>
    rw [List.append_assoc, codePieces_literal hlit, codePieces_literal hlit, ih]

theorem stripTrailingComment_eq (cs : List Char) :
    stripTrailingComment cs = (codePieces cs).flatMap Piece.chars := rfl

/-- An empty literal holds no number sign, so that the first one left is that of the comment. -/
theorem stripComment_stripLiterals (cs : List Char) :
    stripComment (stripLiterals cs) = (codePieces cs).flatMap Piece.hollow := by
  rw [stripComment, stripLiterals, codePieces]
  induction pieces cs with
  | nil => rfl
  | cons piece rest ih =>
    cases piece with
    | literal lit => simpa [Piece.hollow, Piece.isCommentSign] using ih
    | plain c =>
      by_cases hc : c = '#'
      · simp [hc, Piece.hollow, Piece.isCommentSign]
      · simpa [hc, Piece.hollow, Piece.isCommentSign] using ih

/-- The code of a line is what is left of the pieces before its comment. -/
theorem codeOf_eq (cs : List Char) : codeOf cs = trim ((codePieces cs).flatMap Piece.hollow) := by
  rw [codeOf, stripComment_stripLiterals]

/-- The code of a text without quotation marks and number signs is the text, blanks around it
apart. -/
theorem codeOf_of_plain {cs : List Char} (h : ∀ c ∈ cs, notQuoteMark c = true ∧ c ≠ '#') :
    codeOf cs = trim cs := by
  have hcode : codePieces cs = cs.map .plain := by
    rw [codePieces, pieces_of_plain fun c hc ↦ (h c hc).1, List.takeWhile_eq_self_iff,
      List.forall_mem_map]
    intro c hc
    simpa [Piece.isCommentSign] using (h c hc).2
  rw [codeOf_eq, hcode, List.flatMap_map]
  exact congrArg trim (List.flatMap_singleton' cs)

/-- A comment after a text with closed quotes is no part of the code. -/
theorem codeOf_append_comment {cs : List Char} (h : QuotesClosed cs) (comment : List Char) :
    codeOf (cs ++ '#' :: comment) = codeOf cs := by
  rw [codeOf_eq, codeOf_eq, codePieces_append_comment h]

/-! ### The comment cut off -/

/-- The pieces of a text make up the text. -/
theorem flatMap_chars_pieces (cs : List Char) : (pieces cs).flatMap Piece.chars = cs := by
  induction cs using pieces_induction with
  | nil => rfl
  | literal lit rest hlit ih =>
    rw [pieces_literal hlit, List.flatMap_cons, ih, Piece.chars]
  | plain c cs hplain ih =>
    rw [pieces_plain hplain, List.flatMap_cons, ih, Piece.chars, List.singleton_append]

/-- A text is what stands before its comment, and the comment if there is one. -/
theorem exists_eq_stripTrailingComment_append (cs : List Char) : ∃ comment : List Char,
    cs = stripTrailingComment cs ++ comment ∧ ∀ c ∈ comment.head?, c = '#' := by
  refine ⟨((pieces cs).dropWhile (!·.isCommentSign)).flatMap Piece.chars, ?_, ?_⟩
  · rw [stripTrailingComment, ← List.flatMap_append, List.takeWhile_append_dropWhile,
      flatMap_chars_pieces]
  · have hsign := List.head?_dropWhile_not (!·.isCommentSign) (pieces cs)
    cases hrest : (pieces cs).dropWhile (!·.isCommentSign) with
    | nil => exact nofun
    | cons piece rest =>
      simp only [hrest, List.head?_cons] at hsign
      cases piece with
      | literal lit => cases hsign
      | plain d => simpa [Piece.chars, Piece.isCommentSign] using hsign

theorem prefix_stripTrailingComment (cs : List Char) : stripTrailingComment cs <+: cs := by
  obtain ⟨comment, hcs, -⟩ := exists_eq_stripTrailingComment_append cs
  exact ⟨comment, hcs.symm⟩

/-- The scan of a text that is cut before its comment finds the same literals as before. -/
theorem pieces_stripTrailingComment (cs : List Char) :
    pieces (stripTrailingComment cs) = codePieces cs := by
  induction cs using pieces_induction with
  | nil => rfl
  | literal lit rest hlit ih =>
    rw [stripTrailingComment_eq, codePieces_literal hlit, List.flatMap_cons, Piece.chars,
      pieces_literal hlit, ← stripTrailingComment_eq, ih]
  | plain c cs hplain ih =>
    by_cases hc : c = '#'
    · rw [stripTrailingComment_eq, hc, codePieces_comment]
      rfl
    · -- the mark that opened no literal had its whole text to close in, and now has less
      have hcut : literal? (c :: stripTrailingComment cs) = none :=
        literal?_eq_none_of_cut
          ((List.prefix_cons_inj c).mpr (prefix_stripTrailingComment cs)) hplain
      rw [stripTrailingComment_eq, codePieces_plain hplain hc, List.flatMap_cons, Piece.chars,
        List.singleton_append, ← stripTrailingComment_eq, pieces_plain hcut, ih]

/-- No comment is left once it is cut off. -/
theorem codePieces_stripTrailingComment (cs : List Char) :
    codePieces (stripTrailingComment cs) = codePieces cs := by
  rw [codePieces, pieces_stripTrailingComment, codePieces, List.takeWhile_idem]

theorem stripLiterals_stripTrailingComment (cs : List Char) :
    stripLiterals (stripTrailingComment cs) = (codePieces cs).flatMap Piece.hollow := by
  rw [stripLiterals, pieces_stripTrailingComment]

/-- A comment can be cut off before the literals are emptied or after. For every text, with whatever
quotation marks that close or do not, escapes and number signs, both ways leave the same, and so the
code of the text is what either leaves, without the blanks around it. What is cut off in front of
the literals is the end of the text: nothing, or a part that starts with a number sign. The scan
finds the same pieces in the rest as it found there in the whole text, none of them the sign of a
comment, so that nothing is cut off a second time. -/
theorem comment_cut_before_or_after_literals (cs : List Char) :
    stripComment (stripLiterals cs) = stripLiterals (stripTrailingComment cs) ∧
    codeOf cs = trim (stripLiterals (stripTrailingComment cs)) ∧
    stripTrailingComment cs <+: cs ∧
    (∃ comment, cs = stripTrailingComment cs ++ comment ∧ ∀ c ∈ comment.head?, c = '#') ∧
    pieces (stripTrailingComment cs) = (pieces cs).takeWhile (!·.isCommentSign) ∧
    stripTrailingComment (stripTrailingComment cs) = stripTrailingComment cs := by
  have hboth : stripComment (stripLiterals cs) = stripLiterals (stripTrailingComment cs) :=
    (stripComment_stripLiterals cs).trans (stripLiterals_stripTrailingComment cs).symm
  refine ⟨hboth, congrArg trim hboth, prefix_stripTrailingComment cs,
    exists_eq_stripTrailingComment_append cs, pieces_stripTrailingComment cs, ?_⟩
  rw [stripTrailingComment_eq, codePieces_stripTrailingComment, ← stripTrailingComment_eq]

-- A number sign in a literal, a mark that opens none, and in the comment a mark of the other kind.
example :
    let cs := "say(\"# 1\") + \"it # don't".toList
    stripTrailingComment cs = "say(\"# 1\") + \"it ".toList ∧
      stripComment (stripLiterals cs) = "say(\"\") + \"it ".toList := by
  decide +kernel

/-! ### Blanks around a text -/

theorem isCommentSign_of_mem_blanks {blanks : List Char} (h : ∀ c ∈ blanks, isBlank c = true) :
    ∀ piece ∈ blanks.map Piece.plain, (!piece.isCommentSign) = true := by
  intro piece hpiece
  obtain ⟨c, hc, rfl⟩ := List.mem_map.mp hpiece
  rw [Piece.isCommentSign, Bool.not_eq_true', beq_eq_false_iff_ne]
  exact ne_of_isBlank (h c hc) (by decide)

/-- Blanks around a text are plain pieces; those at its end are before the comment only when there
is none. -/
theorem codePieces_blanks {lead trail : List Char} (hlead : ∀ c ∈ lead, isBlank c = true)
    (htrail : ∀ c ∈ trail, isBlank c = true) (cs : List Char) :
    ∃ kept : List Char, (∀ c ∈ kept, isBlank c = true) ∧
      codePieces (lead ++ cs ++ trail) =
        lead.map .plain ++ codePieces cs ++ kept.map .plain := by
  rw [codePieces, pieces_append_right _ fun c hc ↦ notQuoteMark_of_isBlank (htrail c hc),
    pieces_append_left fun c hc ↦ notQuoteMark_of_isBlank (hlead c hc), List.append_assoc,
    List.takeWhile_append_of_pos (isCommentSign_of_mem_blanks hlead), List.takeWhile_append]
  split
  · next hall =>
    refine ⟨trail, htrail, ?_⟩
    rw [List.takeWhile_eq_self_iff.mpr (isCommentSign_of_mem_blanks htrail), List.append_assoc,
      codePieces, (List.takeWhile_prefix _).eq_of_length hall]
  · exact ⟨[], nofun, by rw [List.map_nil, List.append_nil, codePieces]⟩

/-- What is read off the text before the comment without regard to the blanks around it is read off
the whole text without regard to them. -/
theorem IgnoresBlanks.codePieces {α : Type} {read : List Char → α} (h : IgnoresBlanks read)
    {view : Piece → List Char} (hview : ∀ c, view (.plain c) = [c]) :
    IgnoresBlanks fun cs ↦ read ((codePieces cs).flatMap view) := by
  intro lead cs trail hlead htrail
  obtain ⟨kept, hkept, hpieces⟩ := codePieces_blanks hlead htrail cs
  have hplain : ∀ blanks : List Char, (blanks.map Piece.plain).flatMap view = blanks := by
    intro blanks
    rw [List.flatMap_map]
    simp only [hview, List.flatMap_singleton']
  simp only
  rw [hpieces, List.flatMap_append, List.flatMap_append, hplain, hplain]
  exact h lead _ kept hlead hkept

theorem ignoresBlanks_codeOf : IgnoresBlanks codeOf := by
  rw [funext codeOf_eq]
  exact ignoresBlanks_trim.codePieces fun _ ↦ rfl

end CodeSmells.Text
