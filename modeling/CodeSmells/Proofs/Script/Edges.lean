import CodeSmells.Proofs.Model.Description
import CodeSmells.Proofs.Text.Scan
import CodeSmells.Script.Edges

/-!
# The edges of a body

The calls and accesses of a body are read off its lines one by one, each line by ten patterns that
go into the same two sets. `edges_united` says what follows from that, whatever the lines are. A
body always has edges, since whatever a pattern finds has a name and an owner has one too. The edges
of two bodies put together are the union of theirs, so that neither the order nor the repetition of
lines can be seen. The owner makes every call, and which classes are known decides about accesses
only: the more classes are known the more accesses are kept, and most of all when nothing is known
about classes.

A line is read apart from all others (`edges_eq`), and so each part is shown of a single line:
that its edges have names (`ne_empty_of_mem_callees`, `ne_empty_of_mem_touched`), that what is kept
under some classes is kept under more (`accessesOf_mono`), and that it belongs to the owner or to a
class that is known (`owner_of_mem_accessesOf`).
-/

set_option autoImplicit false
set_option relaxedAutoImplicit false

namespace CodeSmells.Edges

open Text

/-! ### What is found has a name -/

theorem ne_empty_of_name? {cs name rest : List Char} (h : name? cs = some (name, rest)) :
    String.ofList name ≠ "" := by
  cases cs with
  | nil => cases h
  | cons c cs =>
    rw [name?] at h
    split at h
    · cases h
      simp
    · cases h

/-- The name of a plain call is a name. -/
theorem ne_empty_of_bareCall {code : List Char} {target : String}
    (h : target ∈ bareCall.findAll code) : target ≠ "" := by
  obtain ⟨before, text, rest, hfound⟩ := Pattern.exists_of_mem_findFrom _ _ _ h
  obtain ⟨-, -, hcalled⟩ := Option.bind_eq_some_iff.mp hfound
  obtain ⟨⟨name, later⟩, hname, hrest⟩ := Option.bind_eq_some_iff.mp hcalled
  obtain ⟨tail, -, hpair⟩ := Option.bind_eq_some_iff.mp hrest
  cases hpair
  exact ne_empty_of_name? hname

/-- The name of a member is a name. -/
theorem ne_empty_of_qualifiedMember {code : List Char} {member : String × String}
    (h : member ∈ qualifiedMember.findAll code) : member.2 ≠ "" := by
  obtain ⟨before, text, rest, hfound⟩ := Pattern.exists_of_mem_findFrom _ _ _ h
  obtain ⟨-, -, hfound⟩ := Option.bind_eq_some_iff.mp hfound
  obtain ⟨⟨qualifier, later⟩, -, hfound⟩ := Option.bind_eq_some_iff.mp hfound
  obtain ⟨dotted, -, hfound⟩ := Option.bind_eq_some_iff.mp hfound
  obtain ⟨⟨name, tail⟩, hname, hfound⟩ := Option.bind_eq_some_iff.mp hfound
  obtain ⟨-, -, hpair⟩ := Option.bind_eq_some_iff.mp hfound
  cases hpair
  exact ne_empty_of_name? hname

theorem ne_empty_of_startsUpper {s : String} (h : startsUpper s = true) : s ≠ "" := by
  rintro rfl
  cases h

namespace Context

variable {c : Context} {line : SourceLine}

/-- Two names with a dot between them are a name. -/
theorem dotted_ne_empty (qualifier target : String) : qualifier ++ "." ++ target ≠ "" := by
  simp

theorem ne_empty_of_bareCallee? {target callee : String} (htarget : target ≠ "")
    (h : c.bareCallee? target = some callee) : callee ≠ "" := by
  rw [bareCallee?] at h
  split at h
  · cases h
  · cases h
    split
    · exact dotted_ne_empty _ _
    · exact htarget

/-- Whatever a line calls has a name. -/
theorem ne_empty_of_mem_callees {callee : String} (h : callee ∈ c.callees line) : callee ≠ "" := by
  have howned : ∀ {targets : List String}, callee ∈ targets.map c.ownCall → callee ≠ "" := by
    intro targets hmem
    obtain ⟨target, -, rfl⟩ := List.mem_map.mp hmem
    exact dotted_ne_empty _ _
  rw [callees] at h
  split at h
  · simp only [codeCallees, List.mem_append] at h
    rcases h with h | ((((h | h) | h) | h) | h) | h
    · exact howned h
    · exact howned h
    · obtain ⟨target, -, rfl⟩ := List.mem_map.mp h
      simp
    · split at h
      · rw [List.mem_singleton.mp h]
        simp
      · cases h
    · exact howned h
    · obtain ⟨call, -, hcall⟩ := List.mem_filterMap.mp h
      rw [qualifiedCallee?] at hcall
      split at hcall
      · cases hcall
      · cases hcall
        exact dotted_ne_empty _ _
    · obtain ⟨target, htarget, hcallee⟩ := List.mem_filterMap.mp h
      exact ne_empty_of_bareCallee? (ne_empty_of_bareCall htarget) hcallee
  · cases h

/-- The class that a member is taken to belong to has a name. -/
theorem ne_empty_of_memberOwner? {qualifier owner : String}
    (h : c.memberOwner? qualifier = some owner) : owner ≠ "" := by
  have hcapital : memberOwner?.capital qualifier = some owner → owner ≠ "" := by
    intro hcapital
    rw [memberOwner?.capital] at hcapital
    split at hcapital
    · next hupper =>
      cases hcapital
      exact ne_empty_of_startsUpper hupper
    · cases hcapital
  rw [memberOwner?] at h
  split at h
  · split at h
    · exact hcapital h
    · next hne =>
      cases h
      simpa using hne
  · exact hcapital h

/-- A member of a name stands for an access to its owner, where accesses to that are kept. -/
theorem memberAccess?_eq_some_iff {member access : String × String} :
    c.memberAccess? member = some access ↔
      (member.1 == "self" || member.1 == "super" || allUpper member.2.toList) = false ∧
      c.memberOwner? member.1 = some access.1 ∧ c.isTracked access.1 = true ∧
      member.2 = access.2 := by
  obtain ⟨owner, field⟩ := access
  rw [memberAccess?]
  split
  · next hskip => simp [hskip]
  · next hskip =>
    simp only [Option.map_eq_some_iff, Option.filter_eq_some_iff, Prod.mk.injEq]
    constructor
    · rintro ⟨_, ⟨hfound, htracked⟩, rfl, rfl⟩
      exact ⟨Bool.eq_false_iff.mpr hskip, hfound, htracked, rfl⟩
    · rintro ⟨-, hfound, htracked, rfl⟩
      exact ⟨owner, ⟨hfound, htracked⟩, rfl, rfl⟩

/-- A line accesses fields of the owner that it mentions, and what members of names stand for. -/
theorem mem_touched_iff {access : String × String} :
    access ∈ c.touched line ↔ line.isCode = true ∧
      ((access.1 = c.owner ∧ access.2 ∈ c.fields ∧
          (fieldMention access.2.toList notCalled).occurs (codeOf line.content) = true) ∨
        ∃ member ∈ qualifiedMember.findAll (codeOf line.content),
          c.memberAccess? member = some access) := by
  obtain ⟨owner, field⟩ := access
  rw [touched]
  split
  · next hcode =>
    simp only [hcode, true_and, List.mem_append, List.mem_map, List.mem_filter, List.mem_filterMap,
      Prod.mk.injEq]
    refine or_congr_left ⟨?_, ?_⟩
    · rintro ⟨_, ⟨hfield, hmention⟩, rfl, rfl⟩
      exact ⟨rfl, hfield, hmention⟩
    · rintro ⟨rfl, hfield, hmention⟩
      exact ⟨field, ⟨hfield, hmention⟩, rfl, rfl⟩
  · next hcode => simp [hcode]

/-- Whatever a line accesses has a name, and its owner has one. -/
theorem ne_empty_of_mem_touched (howner : c.owner ≠ "") (hfields : ∀ f ∈ c.fields, f ≠ "")
    {access : String × String} (h : access ∈ c.touched line) : access.1 ≠ "" ∧ access.2 ≠ "" := by
  obtain ⟨-, ⟨hown, hfield, -⟩ | ⟨member, hmember, haccess⟩⟩ := mem_touched_iff.mp h
  · exact ⟨hown ▸ howner, hfields _ hfield⟩
  · obtain ⟨-, hfound, -, hname⟩ := memberAccess?_eq_some_iff.mp haccess
    exact ⟨ne_empty_of_memberOwner? hfound, hname ▸ ne_empty_of_qualifiedMember hmember⟩

/-! ### Bodies -/

/-- Where every check is passed, its results come out in order. -/
theorem mapM_eq_ok_map {ε α β : Type} {f : α → Except ε β} {g : α → β} {xs : List α}
    (h : ∀ x ∈ xs, f x = .ok (g x)) : xs.mapM f = .ok (xs.map g) :=
  (mapM_congr h).trans List.mapM_pure

/-- The calls of a body. -/
def callsOf (c : Context) (lines : List SourceLine) : List CallEdge :=
  sortedSet (lines.flatMap fun line ↦ (c.callees line).map (⟨c.owner, ·⟩))

/-- The accesses of a body. -/
def accessesOf (c : Context) (lines : List SourceLine) : List FieldAccess :=
  sortedSet (lines.flatMap fun line ↦ (c.touched line).map fun access ↦ ⟨access.1, access.2⟩)

theorem lineCalls_eq (howner : c.owner ≠ "") (line : SourceLine) :
    c.lineCalls line = .ok ((c.callees line).map (⟨c.owner, ·⟩)) := by
  refine mapM_eq_ok_map fun callee hcallee ↦ ?_
  simp [CallEdge.make, howner, ne_empty_of_mem_callees hcallee]

theorem lineAccesses_eq (howner : c.owner ≠ "") (hfields : ∀ f ∈ c.fields, f ≠ "")
    (line : SourceLine) :
    c.lineAccesses line = .ok ((c.touched line).map fun access ↦ ⟨access.1, access.2⟩) := by
  refine mapM_eq_ok_map fun access haccess ↦ ?_
  obtain ⟨hfirst, hsecond⟩ := ne_empty_of_mem_touched howner hfields haccess
  simp [FieldAccess.make, hfirst, hsecond]

/-- Every body has edges, which are those of its lines. -/
theorem edges_eq (howner : c.owner ≠ "") (hfields : ∀ f ∈ c.fields, f ≠ "")
    (lines : List SourceLine) : c.edges lines = .ok (c.callsOf lines, c.accessesOf lines) := by
  have hlines : (lines.mapM fun line ↦ return (← c.lineCalls line, ← c.lineAccesses line)) =
      .ok (lines.map fun line ↦ ((c.callees line).map (⟨c.owner, ·⟩),
        (c.touched line).map fun access ↦ ⟨access.1, access.2⟩)) := by
    refine mapM_eq_ok_map fun line _ ↦ ?_
    rw [lineCalls_eq howner, lineAccesses_eq howner hfields]
    rfl
  rw [edges, hlines]
  simp only [bind, Except.bind, pure, Except.pure, List.flatMap_map]
  rfl

theorem mem_callsOf {lines : List SourceLine} {e : CallEdge} :
    e ∈ c.callsOf lines ↔ e.caller = c.owner ∧ ∃ line ∈ lines, e.callee ∈ c.callees line := by
  obtain ⟨caller, callee⟩ := e
  simp only [callsOf, mem_sortedSet, List.mem_flatMap, List.mem_map, CallEdge.mk.injEq]
  constructor
  · rintro ⟨line, hline, _, hcallee, rfl, rfl⟩
    exact ⟨rfl, line, hline, hcallee⟩
  · rintro ⟨rfl, line, hline, hcallee⟩
    exact ⟨line, hline, callee, hcallee, rfl, rfl⟩

theorem mem_accessesOf {lines : List SourceLine} {a : FieldAccess} :
    a ∈ c.accessesOf lines ↔ ∃ line ∈ lines, (a.owner, a.field) ∈ c.touched line := by
  obtain ⟨owner, field⟩ := a
  simp only [accessesOf, mem_sortedSet, List.mem_flatMap, List.mem_map, FieldAccess.mk.injEq]
  refine exists_congr fun line ↦ and_congr_right fun _ ↦ ⟨?_, fun h ↦ ⟨_, h, rfl, rfl⟩⟩
  rintro ⟨_, haccess, rfl, rfl⟩
  exact haccess

/-- The union of what two lists give line by line is what the lists together give. -/
theorem sortedSet_flatMap_append {α : Type} [LT α] [DecidableLT α] [DecidableEq α]
    [IsStrictTotalOrder α (· < ·)] (f : SourceLine → List α) (xs ys : List SourceLine) :
    sortedSet ((xs ++ ys).flatMap f) =
      sortedSet (sortedSet (xs.flatMap f) ++ sortedSet (ys.flatMap f)) :=
  sortedSet_eq_of_mem_iff fun x ↦ by
    simp only [List.flatMap_append, List.mem_append, mem_sortedSet]

/-- What lists give line by line, as a set, is the same for lists with the same lines. -/
theorem sortedSet_flatMap_of_sameMembers {α : Type} [LT α] [DecidableLT α] [DecidableEq α]
    [IsStrictTotalOrder α (· < ·)] (f : SourceLine → List α) {xs ys : List SourceLine}
    (h : SameMembers xs ys) : sortedSet (xs.flatMap f) = sortedSet (ys.flatMap f) :=
  sortedSet_eq_of_mem_iff fun x ↦ by
    simp only [List.mem_flatMap, h _]

/-! ### Known classes -/

/-- The same names, with other classes known. -/
def knowing (c : Context) (known : Option (List String)) : Context :=
  { c with knownClasses := known }

/-- Calls are read without a look at the known classes. -/
theorem callsOf_knowing (known : Option (List String)) (lines : List SourceLine) :
    (c.knowing known).callsOf lines = c.callsOf lines := rfl

theorem isTracked_some_iff {known : List String} {name : String} :
    (c.knowing (some known)).isTracked name = true ↔
      name ∉ engineSingletons ∧ (name ∈ known ∨ name = c.owner) := by
  simp [isTracked, knowing]

theorem isTracked_none_iff {name : String} :
    (c.knowing none).isTracked name = true ↔ name ∉ engineSingletons := by
  simp [isTracked, knowing]

/-- Where more classes are tracked, what was kept of a line is still kept. -/
theorem accessesOf_mono {known known' : Option (List String)}
    (h : ∀ name, (c.knowing known).isTracked name = true → (c.knowing known').isTracked name = true)
    (lines : List SourceLine) :
    (c.knowing known).accessesOf lines ⊆ (c.knowing known').accessesOf lines := by
  intro a ha
  obtain ⟨line, hline, hmem⟩ := mem_accessesOf.mp ha
  refine mem_accessesOf.mpr ⟨line, hline, mem_touched_iff.mpr ?_⟩
  refine (mem_touched_iff.mp hmem).imp_right (Or.imp_right ?_)
  rintro ⟨member, hmember, haccess⟩
  obtain ⟨hskip, hfound, htracked, hname⟩ := memberAccess?_eq_some_iff.mp haccess
  exact ⟨member, hmember, memberAccess?_eq_some_iff.mpr ⟨hskip, hfound, h _ htracked, hname⟩⟩

/-- What is kept of a line belongs to the owner or to a class that is tracked. -/
theorem owner_of_mem_accessesOf {lines : List SourceLine} {a : FieldAccess}
    (h : a ∈ c.accessesOf lines) : a.owner = c.owner ∨ c.isTracked a.owner = true := by
  obtain ⟨line, -, hmem⟩ := mem_accessesOf.mp h
  obtain ⟨-, ⟨hown, -⟩ | ⟨member, -, haccess⟩⟩ := mem_touched_iff.mp hmem
  · exact Or.inl hown
  · exact Or.inr (memberAccess?_eq_some_iff.mp haccess).2.2.1

/-! ### The edges of all bodies -/

/-- Edges are read off lines apart from each other, by an owner who knows some classes. -/
structure Unites (c : Context) (calls : List SourceLine → List CallEdge)
    (accesses : Option (List String) → List SourceLine → List FieldAccess) : Prop where
  answers : ∀ known lines, (c.knowing known).edges lines = .ok (calls lines, accesses known lines)
  calls_append : ∀ xs ys, calls (xs ++ ys) = sortedSet (calls xs ++ calls ys)
  accesses_append : ∀ known xs ys,
    accesses known (xs ++ ys) = sortedSet (accesses known xs ++ accesses known ys)
  sameLines : ∀ xs ys, SameMembers xs ys →
    calls xs = calls ys ∧ ∀ known, accesses known xs = accesses known ys
  caller : ∀ lines, ∀ e ∈ calls lines, e.caller = c.owner
  mono : ∀ (known known' : List String) (lines : List SourceLine), known ⊆ known' →
    accesses (some known) lines ⊆ accesses (some known') lines
  mono_none : ∀ (known : List String) (lines : List SourceLine),
    accesses (some known) lines ⊆ accesses none lines
  owner : ∀ (known : List String) (lines : List SourceLine), ∀ a ∈ accesses (some known) lines,
    a.owner = c.owner ∨ (a.owner ∈ known ∧ a.owner ∉ engineSingletons)

/-- Every body has edges: no line makes an edge without a name. The calls and the accesses of two
bodies put together are the union of theirs, and bodies with the same lines, in whatever order and
however often, have the same edges. The owner makes every call, and the known classes decide about
accesses only. With more known classes at least as many accesses are kept, most of all when nothing
is known about classes; and when it is known, each access is to the owner or to a known class that is
no object of the engine.

Assumes: the owner and the fields have names. -/
theorem edges_united (c : Context) (howner : c.owner ≠ "") (hfields : ∀ f ∈ c.fields, f ≠ "") :
    ∃ calls accesses, c.Unites calls accesses := by
  refine ⟨c.callsOf, fun known ↦ (c.knowing known).accessesOf, ?_⟩
  constructor
  case answers =>
    intro known lines
    rw [edges_eq (c := c.knowing known) howner hfields, callsOf_knowing]
  case calls_append => exact sortedSet_flatMap_append _
  case accesses_append =>
    intro known
    exact sortedSet_flatMap_append _
  case sameLines =>
    intro xs ys h
    exact ⟨sortedSet_flatMap_of_sameMembers _ h, fun known ↦ sortedSet_flatMap_of_sameMembers _ h⟩
  case caller =>
    intro lines e he
    exact (mem_callsOf.mp he).1
  case mono =>
    intro known known' lines hsubset
    refine accessesOf_mono (fun name hname ↦ ?_) lines
    rw [isTracked_some_iff] at hname ⊢
    exact hname.imp_right (Or.imp_left fun hin ↦ hsubset hin)
  case mono_none =>
    intro known lines
    exact accessesOf_mono
      (fun name hname ↦ isTracked_none_iff.mpr (isTracked_some_iff.mp hname).1) lines
  case owner =>
    intro known lines a ha
    rcases owner_of_mem_accessesOf ha with hown | htracked
    · exact Or.inl hown
    · obtain ⟨hengine, hin | hown⟩ := isTracked_some_iff.mp htracked
      · exact Or.inr ⟨hin, hengine⟩
      · exact Or.inl hown

/-- A hero with a field and a variable of another class. -/
def hero : Context where
  owner := "Hero"
  method := "_ready"
  methods := ["heal"]
  fields := ["health"]
  aliases := [("foe", "Enemy")]
  knownClasses := none

/-- Three calls and fields of four owners, of which the engine is one. -/
def heroLines : List SourceLine :=
  [⟨"\thealth += foe.power", none⟩, ⟨"\tTimer.wait = Input.axis", none⟩, ⟨"\theal()", none⟩,
    ⟨"\tsuper()", none⟩]

/-- The more classes are known, the more accesses are kept, but none to the engine. -/
theorem edges_united_hero :
    hero.owner ≠ "" ∧ (∀ f ∈ hero.fields, f ≠ "") ∧
    ∃ calls accesses, hero.Unites calls accesses ∧
      calls heroLines = [⟨"Hero", "Hero.heal"⟩, ⟨"Hero", "super._ready"⟩] ∧
      accesses (some []) heroLines = [⟨"Hero", "health"⟩] ∧
      accesses (some ["Enemy"]) heroLines = [⟨"Enemy", "power"⟩, ⟨"Hero", "health"⟩] ∧
      accesses none heroLines =
        [⟨"Enemy", "power"⟩, ⟨"Hero", "health"⟩, ⟨"Timer", "wait"⟩] := by
  have howner : hero.owner ≠ "" := by decide
  have hfields : ∀ f ∈ hero.fields, f ≠ "" := by decide
  obtain ⟨calls, accesses, hunites⟩ := edges_united hero howner hfields
  have hfound (known : Option (List String)) :
      calls heroLines = hero.callsOf heroLines ∧
        accesses known heroLines = (hero.knowing known).accessesOf heroLines := by
    have hedges := edges_eq (c := hero.knowing known) howner hfields heroLines
    rw [hunites.answers, Except.ok.injEq, Prod.mk.injEq] at hedges
    exact hedges
  refine ⟨howner, hfields, calls, accesses, hunites, ?_, ?_, ?_, ?_⟩
  · rw [(hfound none).1]
    decide +kernel
  · rw [(hfound _).2]
    decide +kernel
  · rw [(hfound _).2]
    decide +kernel
  · rw [(hfound _).2]
    decide +kernel

end Context

end CodeSmells.Edges
