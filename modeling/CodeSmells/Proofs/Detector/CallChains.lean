import CodeSmells.Detector.MessageChains
import CodeSmells.Proofs.Detector.ClumpGroups
import CodeSmells.Proofs.Metric.InertLines
import CodeSmells.Proofs.Text.Literal
import CodeSmells.Proofs.Text.Scan

/-!
# The length of a call chain

A call chain is written as calls with a dot between each two, and each call as a name and arguments
in parentheses (`Call.text`, `chainText`). What stands between the parentheses may be any text that
holds no further parenthesis, no quotation mark and no number sign: dots, commas, blanks and names
there are no links, though they look like some.

Reading goes link by link. A name ends at its parenthesis and the arguments end at the next one,
after which a further link can only start at a dot, so that links that are written with dots between
them are one chain (`callChain_linkTexts`), and what is read as a chain is written so
(`exists_linkText`, `exists_linkTexts`). The text of a chain is searched for links once more; the
search finds the links that made it a chain (`findAll_of_callChain`). For a row of calls the chain
is the whole text and its links are the calls (`callChain_chainText`, `findAll_chainText`), and
nothing is left in which a second chain could be found. So a line with a chain holds exactly that
chain (`filter_chainsOf`), a method of such lines one chain for each line, and the chain of a line
that is too long is reported (`call_chains_measured`).
-/

set_option autoImplicit false
set_option relaxedAutoImplicit false

namespace CodeSmells

namespace MessageChains

open List (Forall₂)
open Text

/-! ### Links as they are written -/

/-- How a link is written: a name alone, or a name and arguments that hold no parenthesis. -/
inductive LinkText : Link → List Char → Prop
  | bare {name : List Char} (hne : name ≠ []) (hword : ∀ c ∈ name, isWord c = true) :
      LinkText (name, false) name
  | called {name : List Char} {arguments : List Char} (hne : name ≠ [])
      (hword : ∀ c ∈ name, isWord c = true) (hfree : ∀ c ∈ arguments, c ≠ '(' ∧ c ≠ ')') :
      LinkText (name, true) (name ++ '(' :: arguments ++ [')'])

section Links

variable {link : Link} {links : List Link} {text cs rest : List Char} {texts : List (List Char)}

theorem optArguments_append {arguments : List Char} (hfree : ∀ c ∈ arguments, c ≠ '(' ∧ c ≠ ')')
    (rest : List Char) : optArguments ('(' :: (arguments ++ ')' :: rest)) = (true, rest) := by
  have hinner : (arguments ++ ')' :: rest).dropWhile (fun c ↦ c != '(' && c != ')') =
      ')' :: rest :=
    dropWhile_append_cons (fun c hc ↦ by simpa using hfree c hc) (by decide)
  simp only [optArguments, hinner]

/-- A link is read as it was written where the text ends after it, or goes on with a dot. -/
theorem LinkText.link?_append (h : LinkText link text)
    (hrest : rest = [] ∨ ∃ more, rest = '.' :: more) :
    link? (text ++ rest) = some (link, rest) := by
  cases h with
  | @called name arguments hne hword hfree =>
    have htext : name ++ '(' :: arguments ++ [')'] ++ rest =
        name ++ '(' :: (arguments ++ ')' :: rest) := by simp
    rw [htext, link?, run?_append_cons hne hword (by decide)]
    simp only [optArguments_append hfree]
  | bare hne hword =>
    obtain rfl | ⟨more, rfl⟩ := hrest
    · rw [List.append_nil, link?, run?_of_forall hne hword]
      rfl
    · rw [link?, run?_append_cons hne hword (by decide)]
      rfl

/-- Arguments are left out, or they are a text in parentheses that holds none. -/
theorem optArguments_cases (cs : List Char) :
    optArguments cs = (false, cs) ∨
      ∃ arguments rest, (∀ c ∈ arguments, c ≠ '(' ∧ c ≠ ')') ∧
        cs = '(' :: (arguments ++ ')' :: rest) ∧ optArguments cs = (true, rest) := by
  unfold optArguments
  split
  · next inner =>
    split
    · next rest hrest =>
      refine Or.inr ⟨inner.takeWhile fun c ↦ c != '(' && c != ')', rest, fun c hc ↦ ?_, ?_, rfl⟩
      · simpa using List.mem_takeWhile_imp hc
      · rw [← hrest, List.takeWhile_append_dropWhile]
    · exact Or.inl rfl
  · exact Or.inl rfl

/-- What is read as a link is written as one. -/
theorem exists_linkText (h : link? cs = some (link, rest)) :
    ∃ text, LinkText link text ∧ cs = text ++ rest := by
  rw [link?] at h
  split at h
  · next name mid hname =>
    obtain ⟨hne, hword⟩ := of_run?_eq_some hname
    have hcs := append_of_run?_eq_some hname
    obtain hnone | ⟨arguments, rest', hfree, hmid, hsome⟩ := optArguments_cases mid
    · simp only [hnone] at h
      cases h
      exact ⟨name, .bare hne hword, hcs⟩
    · simp only [hsome] at h
      cases h
      exact ⟨_, .called hne hword hfree, by simp [hcs, hmid]⟩
  · cases h

theorem LinkText.ne_nil (h : LinkText link text) : text ≠ [] := by
  cases h with
  | bare hne => exact hne
  | called => simp

/-- Texts with a dot before each. -/
def dotted (texts : List (List Char)) : List Char :=
  texts.flatMap fun text ↦ '.' :: text

theorem dotted_cons (text : List Char) (texts : List (List Char)) :
    dotted (text :: texts) = '.' :: (text ++ dotted texts) := rfl

theorem dotted_eq_nil_or (texts : List (List Char)) :
    dotted texts = [] ∨ ∃ more, dotted texts = '.' :: more := by
  cases texts with
  | nil => exact Or.inl rfl
  | cons text texts => exact Or.inr ⟨_, rfl⟩

theorem length_le_length_dotted (texts : List (List Char)) :
    texts.length ≤ (dotted texts).length := by
  induction texts with
  | nil => exact Nat.le_refl 0
  | cons text texts ih =>
    rw [dotted_cons, List.length_cons, List.length_cons, List.length_append]
    omega

/-- Links that are written with a dot before each are read to the end. -/
theorem moreLinks_dotted (h : Forall₂ LinkText links texts) {fuel : ℕ}
    (hfuel : texts.length ≤ fuel) : moreLinks fuel (dotted texts) = (links, []) := by
  induction h generalizing fuel with
  | nil => cases fuel <;> rfl
  | @cons link text links texts hlink _ ih =>
    have hdot (cs : List Char) : char? '.' ('.' :: cs) = some cs := rfl
    cases fuel with
    | zero => cases hfuel
    | succ fuel =>
      rw [dotted_cons, moreLinks, hdot, Option.bind_some,
        hlink.link?_append (dotted_eq_nil_or texts)]
      simp only [ih (Nat.le_of_succ_le_succ hfuel)]

/-- Further links stand in the text as they were read. -/
theorem exists_linkTexts {fuel : ℕ} (h : moreLinks fuel cs = (links, rest)) :
    ∃ texts, Forall₂ LinkText links texts ∧ cs = dotted texts ++ rest := by
  induction fuel generalizing cs links with
  | zero =>
    cases h
    exact ⟨[], .nil, rfl⟩
  | succ fuel ih =>
    rw [moreLinks] at h
    split at h
    · next link mid hlink =>
      obtain ⟨behind, hdot, hlink⟩ := Option.bind_eq_some_iff.mp hlink
      obtain ⟨text, htext, rfl⟩ := exists_linkText hlink
      cases hmore : moreLinks fuel mid with
      | mk others after =>
        simp only [hmore] at h
        cases h
        obtain ⟨texts, htexts, rfl⟩ := ih hmore
        refine ⟨text :: texts, .cons htext htexts, ?_⟩
        rw [eq_cons_of_char?_eq_some hdot, dotted_cons, List.cons_append, List.append_assoc]
    · cases h
      exact ⟨[], .nil, rfl⟩

/-- Two links or more with a dot between each two are one chain, the whole text. -/
theorem callChain_linkTexts (hfirst : LinkText link text) (hothers : Forall₂ LinkText links texts)
    (hne : links ≠ []) (before : Option Char) :
    callChain before (text ++ dotted texts) = some (text ++ dotted texts, []) := by
  obtain ⟨second, others, rfl⟩ := List.exists_cons_of_ne_nil hne
  have hmore := moreLinks_dotted hothers (length_le_length_dotted texts)
  rw [callChain, hfirst.link?_append (dotted_eq_nil_or texts)]
  simp only [hmore, List.length_nil, Nat.sub_zero, List.take_length]

/-- A search of links with a dot before each finds these links. -/
theorem findFrom_dotted (h : Forall₂ LinkText links texts) (before : Option Char) :
    chainLink.findFrom before 0 (dotted texts) = links := by
  induction h generalizing before with
  | nil => rfl
  | @cons link text links texts hlink _ ih =>
    have hdot (cs : List Char) : chainLink before ('.' :: cs) = none := rfl
    rw [dotted_cons, Pattern.findFrom, hdot]
    exact (Pattern.findFrom_of_match hlink.ne_nil
      (hlink.link?_append (dotted_eq_nil_or texts))).trans (congrArg (link :: ·) (ih _))

/-- A search of links with a dot between each two finds these links. -/
theorem findAll_linkTexts (hfirst : LinkText link text) (hothers : Forall₂ LinkText links texts) :
    chainLink.findAll (text ++ dotted texts) = link :: links :=
  (Pattern.findFrom_of_match hfirst.ne_nil (hfirst.link?_append (dotted_eq_nil_or texts))).trans
    (congrArg (link :: ·) (findFrom_dotted hothers _))

/-- A chain is searched once more for its links. The search finds the links that made it a chain. -/
theorem findAll_of_callChain {before : Option Char} (h : callChain before cs = some (text, rest)) :
    ∃ first others mid, link? cs = some (first, mid) ∧
      moreLinks mid.length mid = (others, rest) ∧ cs = text ++ rest ∧
        chainLink.findAll text = first :: others := by
  rw [callChain] at h
  split at h
  · next first mid hfirst =>
    cases hmore : moreLinks mid.length mid with
    | mk others after =>
      obtain ⟨firstText, hfirstText, rfl⟩ := exists_linkText hfirst
      obtain ⟨texts, htexts, hmid⟩ := exists_linkTexts hmore
      have hcs : firstText ++ mid = firstText ++ dotted texts ++ after := by
        rw [hmid, List.append_assoc]
      have htake : (firstText ++ mid).take ((firstText ++ mid).length - after.length) =
          firstText ++ dotted texts := by
        rw [hcs, List.length_append, Nat.add_sub_cancel, List.take_left]
      rw [hmore] at h
      split at h
      · cases h
      · next hpair =>
        cases hpair
        cases h
        refine ⟨first, others, mid, hfirst, hmore, ?_, ?_⟩
        · rw [htake, hcs]
        · rw [htake]
          exact findAll_linkTexts hfirstText htexts
  · cases h

end Links

/-! ### Calls in a row -/

/-- A call as it is written: a name and what stands between the parentheses. -/
structure Call where
  name : List Char
  arguments : List Char

namespace Call

variable (c : Call)

/-- The call with its parentheses. -/
def text : List Char :=
  c.name ++ '(' :: c.arguments ++ [')']

/-- The call as a link of a chain. -/
def link : Link :=
  (c.name, true)

/-- The name is a word, and the arguments hold no parenthesis, no quotation mark and no number
sign. -/
structure Plain : Prop where
  ne_nil : c.name ≠ []
  word : ∀ d ∈ c.name, isWord d = true
  free : ∀ d ∈ c.arguments, d ∉ ['(', ')', '"', '\'', '#']

instance : Decidable c.Plain :=
  decidable_of_iff (c.name ≠ [] ∧ c.name.all isWord = true ∧
      c.arguments.all (· ∉ ['(', ')', '"', '\'', '#']) = true) <| by
    rw [List.all_eq_true, List.all_eq_true]
    simp only [decide_eq_true_eq]
    exact ⟨fun ⟨hne, hword, hfree⟩ ↦ ⟨hne, hword, hfree⟩, fun h ↦ ⟨h.ne_nil, h.word, h.free⟩⟩

end Call

/-- Calls with a dot between each two. -/
def chainText : List Call → List Char
  | [] => []
  | first :: others => first.text ++ others.flatMap fun c ↦ '.' :: c.text

section Reading

variable {c : Call} {calls : List Call}

/-- A call is written as a link. -/
theorem Call.Plain.linkText (hc : c.Plain) : LinkText c.link c.text := by
  refine .called hc.ne_nil hc.word fun d hd ↦ ?_
  have hfree := hc.free d hd
  simp only [List.mem_cons, not_or] at hfree
  exact ⟨hfree.1, hfree.2.1⟩

theorem forall₂_linkText (hcalls : ∀ c ∈ calls, c.Plain) :
    Forall₂ LinkText (calls.map Call.link) (calls.map Call.text) := by
  rw [List.forall₂_map_left_iff, List.forall₂_map_right_iff, List.forall₂_same]
  exact fun c hc ↦ (hcalls c hc).linkText

theorem chainText_cons (first : Call) (others : List Call) :
    chainText (first :: others) = first.text ++ dotted (others.map Call.text) := by
  rw [chainText, dotted, List.flatMap_map]

/-- Two calls or more in a row are one chain, the whole text. -/
theorem callChain_chainText (hcalls : ∀ c ∈ calls, c.Plain) (hmany : 2 ≤ calls.length)
    (before : Option Char) : callChain before (chainText calls) = some (chainText calls, []) := by
  obtain ⟨first, second, others, rfl⟩ :
      ∃ first second others, calls = first :: second :: others := by
    rcases calls with _ | ⟨first, _ | ⟨second, others⟩⟩
    · cases hmany
    · exact absurd hmany (Nat.lt_irrefl 1)
    · exact ⟨first, second, others, rfl⟩
  rw [List.forall_mem_cons] at hcalls
  rw [chainText_cons]
  exact callChain_linkTexts hcalls.1.linkText (forall₂_linkText hcalls.2)
    (List.cons_ne_nil _ _) before

/-- The links of a row of calls are the calls. -/
theorem findAll_chainText (hcalls : ∀ c ∈ calls, c.Plain) :
    chainLink.findAll (chainText calls) = calls.map Call.link := by
  cases calls with
  | nil => rfl
  | cons first others =>
    rw [List.forall_mem_cons] at hcalls
    rw [chainText_cons, List.map_cons]
    exact findAll_linkTexts hcalls.1.linkText (forall₂_linkText hcalls.2)

theorem Call.Plain.plain_of_mem (hc : c.Plain) :
    ∀ d ∈ c.text, notQuoteMark d = true ∧ d ≠ '#' := by
  intro d hd
  rw [Call.text, List.append_assoc, List.cons_append, List.mem_append, List.mem_cons,
    List.mem_append, List.mem_singleton] at hd
  rcases hd with hname | rfl | harguments | rfl
  · have hword := hc.word d hname
    refine ⟨?_, ne_of_isWord hword (by decide)⟩
    simp [notQuoteMark, ne_of_isWord hword (show isWord '"' = false by decide),
      ne_of_isWord hword (show isWord '\'' = false by decide)]
  · decide
  · have hfree := hc.free d harguments
    simp only [List.mem_cons, not_or] at hfree
    simp [notQuoteMark, hfree]
  · decide

theorem plain_of_mem_chainText (hcalls : ∀ c ∈ calls, c.Plain) :
    ∀ d ∈ chainText calls, notQuoteMark d = true ∧ d ≠ '#' := by
  intro d hd
  cases calls with
  | nil => cases hd
  | cons first others =>
    rw [List.forall_mem_cons] at hcalls
    rcases List.mem_append.mp hd with hfirst | hothers
    · exact hcalls.1.plain_of_mem d hfirst
    · obtain ⟨c, hc, hdot | ⟨_, htext⟩⟩ := List.mem_flatMap.mp hothers
      · decide
      · exact (hcalls.2 c hc).plain_of_mem d htext

/-- Calls in a row start with the first character of a name. -/
theorem exists_chainText_eq_cons (hcalls : ∀ c ∈ calls, c.Plain) (hne : calls ≠ []) :
    ∃ d cs, chainText calls = d :: cs ∧ isWord d = true := by
  obtain ⟨first, others, rfl⟩ := List.exists_cons_of_ne_nil hne
  have hfirst := hcalls first List.mem_cons_self
  obtain ⟨d, ds, hname⟩ := List.exists_cons_of_ne_nil hfirst.ne_nil
  refine ⟨d, ds ++ '(' :: first.arguments ++ [')'] ++ others.flatMap fun c ↦ '.' :: c.text, ?_,
    hfirst.word d (by rw [hname]; exact List.mem_cons_self)⟩
  rw [chainText, Call.text, hname]
  simp

/-- Calls in a row end with a parenthesis. -/
theorem getLast?_chainText (hne : calls ≠ []) : (chainText calls).getLast? = some ')' := by
  have htext (c : Call) : c.text.getLast? = some ')' := by rw [Call.text, List.getLast?_concat]
  have hothers (others : List Call) : ∀ front : List Char, front.getLast? = some ')' →
      (front ++ others.flatMap fun c ↦ '.' :: c.text).getLast? = some ')' := by
    induction others with
    | nil => simp
    | cons c others ih =>
      intro front _
      rw [List.flatMap_cons, ← List.append_assoc]
      refine ih _ ?_
      rw [List.getLast?_append, List.getLast?_cons, htext]
      rfl
  obtain ⟨first, others, rfl⟩ := List.exists_cons_of_ne_nil hne
  exact hothers others first.text (htext first)

/-- A row of calls has no blanks around it, so that all of it is code. -/
theorem trim_chainText (hcalls : ∀ c ∈ calls, c.Plain) (hne : calls ≠ []) :
    trim (chainText calls) = chainText calls := by
  obtain ⟨d, cs, htext, hd⟩ := exists_chainText_eq_cons hcalls hne
  rw [trim_eq_self_iff, getLast?_chainText hne, htext]
  simp only [List.head?_cons, Option.mem_some_iff, forall_eq']
  exact ⟨isBlank_of_isWord hd, by decide⟩

end Reading

/-! ### Lines with a chain -/

/-- A line is a row of two calls or more after some indentation. -/
structure Writes (line : SourceLine) (calls : List Call) : Prop where
  several : 2 ≤ calls.length
  plain : ∀ c ∈ calls, c.Plain
  text : ∃ indentation : List Char, line.text.toList = indentation ++ chainText calls ∧
    ∀ c ∈ indentation, isBlank c = true

/-- The chain that calls in a line of a method make. -/
def chainOf (method : String) (line : SourceLine) (calls : List Call) : Chain where
  kind := .callChain
  segments := calls.map fun c ↦ String.ofList c.name
  method := method
  line := line.number

namespace Writes

variable {line : SourceLine} {calls : List Call}

theorem ne_nil (h : Writes line calls) : calls ≠ [] := by
  rintro rfl
  exact absurd h.several (by decide)

theorem content_eq (h : Writes line calls) : line.content = chainText calls := by
  obtain ⟨indentation, htext, hblank⟩ := h.text
  have htrim := ignoresBlanks_trim indentation (chainText calls) [] hblank nofun
  rw [List.append_nil, trim_chainText h.plain h.ne_nil] at htrim
  rw [SourceLine.content, htext, htrim]

theorem isCode (h : Writes line calls) : line.isCode = true := by
  obtain ⟨d, cs, htext, hd⟩ := exists_chainText_eq_cons h.plain h.ne_nil
  have hcomment : line.isComment = false := by
    rw [← Bool.not_eq_true, SourceLine.isComment_iff, h.content_eq, htext]
    simp [List.cons_prefix_cons, (ne_of_isWord hd (show Text.isWord '#' = false by decide)).symm,
      (ne_of_isWord hd (show Text.isWord '/' = false by decide)).symm]
  rw [SourceLine.isCode, SourceLine.isBlank, h.content_eq, htext, hcomment]
  rfl

theorem findAll_eq (h : Writes line calls) :
    callChain.findAll (codeOf line.content) = [chainText calls] := by
  rw [h.content_eq, codeOf_of_plain (plain_of_mem_chainText h.plain),
    trim_chainText h.plain h.ne_nil]
  refine Pattern.findAll_of_whole ?_ (callChain_chainText h.plain h.several none)
  obtain ⟨d, cs, htext, -⟩ := exists_chainText_eq_cons h.plain h.ne_nil
  rw [htext]
  exact List.cons_ne_nil d cs

theorem calledNames_eq (h : Writes line calls) :
    calledNames (chainText calls) = calls.map fun c ↦ String.ofList c.name := by
  rw [calledNames, findAll_chainText h.plain, List.filter_eq_self.mpr, List.map_map]
  · rfl
  · rw [List.forall_mem_map]
    exact fun _ _ ↦ rfl

/-- The only chain of calls in the line is the one that is written there. -/
theorem filter_chainsOf (h : Writes line calls) (method : String) :
    (chainsOf method line).filter (fun c ↦ c.kind = .callChain) = [chainOf method line calls] := by
  have hlong : (chainOf method line calls).length > 1 := by
    rw [Chain.length, chainOf, List.length_map]
    exact h.several
  simp only [chainsOf, h.findAll_eq, List.filter_filter, List.filter_append]
  rw [List.filter_eq_nil_iff.mpr, List.nil_append, List.filter_eq_self.mpr]
  · rw [List.map_singleton, List.map_singleton, h.calledNames_eq]
    rfl
  · rw [List.map_singleton, List.map_singleton, h.calledNames_eq, List.forall_mem_singleton]
    simpa [chainOf] using hlong
  · rw [List.forall_mem_map]
    simp

end Writes

/-- The chains of calls in a method whose lines are rows of calls: one chain for each line, in
order. -/
theorem filter_messageChains {m : Method} {rows : List (SourceLine × List Call)}
    (hlines : m.lines = rows.map Prod.fst) (hrows : ∀ row ∈ rows, Writes row.1 row.2) :
    (messageChains m).filter (fun c ↦ c.kind = .callChain) =
      rows.map fun row ↦ chainOf m.name row.1 row.2 := by
  have hcode : m.codeLines = m.lines := by
    rw [Method.codeLines, List.filter_eq_self, hlines, List.forall_mem_map]
    exact fun row hrow ↦ (hrows row hrow).isCode
  rw [messageChains, hcode, hlines, List.filter_flatMap, List.flatMap_map,
    List.flatMap_congr fun row hrow ↦ (hrows row hrow).filter_chainsOf m.name]
  exact List.map_eq_flatMap.symm

/-- A chain that exceeds a limit is reported, at the method and at a class with the method. -/
theorem detected_of_mem {m : Method} {c : Chain} (hc : c ∈ messageChains m) {given : Entries}
    {limit : Quantity}
    (hlimit : Thresholds.HasLimit ⟨given, detector.defaults⟩ "max_chain_length" limit)
    (habove : limit.lt (.ofNat c.length) = true) {scope : Scope} (hscope : m ∈ methodsOf scope) :
    ∃ r, detector.detect scope given = .ok (some r) ∧ r.detected = true := by
  obtain ⟨v, hv, hmeasure⟩ := hlimit.above_eq
  have hfindings : findings (methodsOf scope) ⟨given, detector.defaults⟩ =
      .ok ⟨((methodsOf scope).flatMap messageChains).filter
        fun c ↦ limit.lt (.ofNat c.length)⟩ := by
    simp only [findings, hv, bind, Except.bind]
    rw [filterM_eq_ok fun c _ ↦ hmeasure _]
    rfl
  have hne : ((methodsOf scope).flatMap messageChains).filter
      (fun c ↦ limit.lt (.ofNat c.length)) ≠ [] :=
    List.ne_nil_of_mem (List.mem_filter.mpr ⟨List.mem_flatMap.mpr ⟨m, hscope, hc⟩, habove⟩)
  have hsupports : detector.supports scope.kind = true := by
    cases scope with
    | ofMethod | ofClass => rfl
    | ofProject => cases hscope
  have hverdict : ∃ verdict,
      detector.evaluate scope ⟨given, detector.defaults⟩ = .ok (some verdict) ∧
        verdict.detected = true := by
    refine ⟨_, bind_eq_ok_iff.mpr ⟨_, hfindings, rfl⟩, ?_⟩
    rw [Bool.not_eq_true', List.isEmpty_eq_false_iff]
    exact hne
  obtain ⟨verdict, hverdict, hdetected⟩ := hverdict
  exact ⟨_, Detector.detect_eq_some_iff.mpr ⟨hsupports, verdict, hverdict, rfl⟩, hdetected⟩

/-- Assumes: a method whose lines are rows of two calls or more, each after some indentation. The
chains of calls that it reports are one for each line, in order, with the names of the calls and as
long as there are calls. Under any limit that is a number, a row of more calls than the limit makes
the detector report at the method and at every class that has it. -/
theorem call_chains_measured {m : Method} {rows : List (SourceLine × List Call)}
    (hlines : m.lines = rows.map Prod.fst) (hrows : ∀ row ∈ rows, Writes row.1 row.2) :
    (messageChains m).filter (fun c ↦ c.kind = .callChain) = rows.map (fun row ↦
      ⟨.callChain, row.2.map fun c ↦ String.ofList c.name, m.name, row.1.number⟩) ∧
    ((messageChains m).filter fun c ↦ c.kind = .callChain).map Chain.length =
      rows.map (·.2.length) ∧
    ∀ (given : Entries) (limit : Quantity),
      Thresholds.HasLimit ⟨given, detector.defaults⟩ "max_chain_length" limit →
      (∃ row ∈ rows, limit.lt (.ofNat row.2.length) = true) →
      ∀ scope, m ∈ methodsOf scope →
        ∃ r, detector.detect scope given = .ok (some r) ∧ r.detected = true := by
  have hchains := filter_messageChains hlines hrows
  refine ⟨hchains, ?_, fun given limit hlimit ⟨row, hrow, habove⟩ scope hscope ↦ ?_⟩
  · rw [hchains, List.map_map]
    exact List.map_congr_left fun row _ ↦ List.length_map _
  · have hmem : chainOf m.name row.1 row.2 ∈ messageChains m := by
      refine List.mem_of_mem_filter (p := fun c ↦ c.kind = .callChain) ?_
      rw [hchains]
      exact List.mem_map_of_mem hrow
    have hlength : (chainOf m.name row.1 row.2).length = row.2.length := List.length_map _
    exact detected_of_mem hmem hlimit (by rwa [hlength]) hscope

/-- Two lines of a method. The arguments of the first hold dots, commas, names and blanks. -/
def winding : List (SourceLine × List Call) :=
  [(⟨"\ttree(a.b, c).root().find( d .e,)", some 7⟩,
      [⟨"tree".toList, "a.b, c".toList⟩, ⟨"root".toList, []⟩, ⟨"find".toList, " d .e,".toList⟩]),
    (⟨"  x_1(2.).y(.2)", none⟩, [⟨"x_1".toList, "2.".toList⟩, ⟨"y".toList, ".2".toList⟩])]

/-- The lines hold a chain of three calls and one of two, and under a limit of two the first is too
long. -/
theorem call_chains_measured_winding :
    let m : Method := { (default : Method) with name := "wind", lines := winding.map Prod.fst }
    (∀ row ∈ winding, Writes row.1 row.2) ∧
    (messageChains m).filter (fun c ↦ c.kind = .callChain) =
      [⟨.callChain, ["tree", "root", "find"], "wind", some 7⟩,
        ⟨.callChain, ["x_1", "y"], "wind", none⟩] ∧
    ∃ r, detector.detect (.ofMethod m default none) [("max_chain_length", .whole 2)] =
      .ok (some r) ∧ r.detected = true := by
  have hrows : ∀ row ∈ winding, Writes row.1 row.2 := by
    rw [winding, List.forall_mem_cons, List.forall_mem_singleton]
    exact ⟨⟨by decide, by decide +kernel, ['\t'], by decide +kernel, List.all_eq_true.mp rfl⟩,
      ⟨by decide, by decide +kernel, [' ', ' '], by decide +kernel, List.all_eq_true.mp rfl⟩⟩
  have hlimit : Thresholds.HasLimit ⟨[("max_chain_length", .whole 2)], detector.defaults⟩
      "max_chain_length" (.ofNat 2) :=
    ⟨.whole 2, rfl, rfl⟩
  obtain ⟨hchains, -, hreported⟩ := call_chains_measured
    (m := { (default : Method) with name := "wind", lines := winding.map Prod.fst }) rfl hrows
  exact ⟨hrows, hchains.trans (by decide +kernel), hreported _ _ hlimit
    ⟨_, List.mem_cons_self, by decide +kernel⟩ _ (List.mem_singleton_self _)⟩

end MessageChains

end CodeSmells
