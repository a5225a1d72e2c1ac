import CodeSmells.File.Tree
import CodeSmells.Proofs.Model.Description
import Mathlib.Data.List.Basic

/-!
# Where names lead and what writing changes

Names are followed one by one from directory to directory, and two dots lead out of one. What is put
at a place stands there afterwards and nowhere else (`find?_put`, `at?_put_eq_file_iff`), and a
directory that does not stand there stays one (`at?_put_directory`). So names that lead to a
directory lead there still after a file was written (`follow_mono`).

Names followed by others lead to a place only if they lead to a directory themselves
(`follow_append`), and from there names without two dots lead further down, to what is written after
the names of the directory (`names_of_follow`). `write_eq_ok` and `makeDirectory_files` say what the
two operations on a workspace do: the one puts a file where the path leads, and the other changes no
file at all.
-/

set_option autoImplicit false
set_option relaxedAutoImplicit false

namespace CodeSmells

/-- The names of the place that a trail ends at, if it does not break off. -/
def Trail.names? : Trail → Option (List String)
  | found names _ => some names
  | free names => some names
  | _ => none

namespace FileTree

variable {tree tree' : FileTree} {names other front rest : List String} {content : Content}

/-! ### Putting content at a place -/

/-- Looking for an entry after something was put at a place. -/
theorem find?_put (names other : List String) (content : Content) (tree : FileTree) :
    (tree.put names content).find? (fun e ↦ e.names == other) =
      if other = names then some ⟨names, content⟩ else tree.find? fun e ↦ e.names == other := by
  rw [put, List.find?_append, List.find?_filter]
  by_cases h : other = names
  · have hnone : tree.find?
        (fun e ↦ decide ((e.names != names) = true ∧ (e.names == other) = true)) = none := by
      rw [List.find?_eq_none]
      intro e _ he
      simp [h] at he
    rw [hnone, if_pos h]
    simp [h]
  · have hsame : (fun e : FileEntry ↦
        decide ((e.names != names) = true ∧ (e.names == other) = true)) =
          fun e ↦ e.names == other := by
      funext e
      by_cases he : e.names = other
      · simp [he, h]
      · simp [he]
    have hlast : (names == other) = false := beq_eq_false_iff_ne.mpr fun heq ↦ h heq.symm
    rw [hsame, if_neg h]
    simp [hlast]

/-- Putting something at a place changes the files of no other place. -/
theorem at?_put_eq_file_iff (h : other ≠ names) (content : Content) {bytes : ByteArray} :
    (tree.put names content).at? other = some (.file bytes) ↔
      tree.at? other = some (.file bytes) := by
  rw [at?_eq_file_iff, at?_eq_file_iff, find?_put, if_neg h]

theorem at?_put_self (names : List String) (content : Content) (tree : FileTree) :
    (tree.put names content).at? names = some content := by
  rw [at?, find?_put, if_pos rfl]

/-- What stands at a place stays as it is when something is put that is not below it. -/
theorem at?_put_of_not_isPrefix (h : ¬ other <+: names) (content : Content) :
    (tree.put names content).at? other = tree.at? other := by
  have hne : other ≠ names := fun heq ↦ h (heq ▸ List.prefix_rfl)
  have hbelow : ((tree.put names content).any fun e ↦ other.isPrefixOf e.names) =
      tree.any fun e ↦ other.isPrefixOf e.names := by
    rw [Bool.eq_iff_iff, List.any_eq_true, List.any_eq_true]
    constructor
    · rintro ⟨e, he, hprefix⟩
      rcases List.mem_append.mp he with hkept | hnew
      · exact ⟨e, List.mem_of_mem_filter hkept, hprefix⟩
      · rw [List.mem_singleton.mp hnew] at hprefix
        exact (h (List.isPrefixOf_iff_prefix.mp hprefix)).elim
    · rintro ⟨e, he, hprefix⟩
      refine ⟨e, List.mem_append_left _ (List.mem_filter.mpr ⟨he, bne_iff_ne.mpr fun heq ↦ ?_⟩),
        hprefix⟩
      exact h (heq ▸ List.isPrefixOf_iff_prefix.mp hprefix)
  rw [at?, at?, find?_put, if_neg hne, hbelow]

/-- A directory stays one when something is put elsewhere. -/
theorem at?_put_directory (h : tree.at? other = some .directory) (hne : other ≠ names)
    (content : Content) : (tree.put names content).at? other = some .directory := by
  rw [at?] at h ⊢
  rw [find?_put, if_neg hne]
  cases hfind : tree.find? fun e ↦ e.names == other with
  | some e =>
    rw [hfind] at h
    exact h
  | none =>
    rw [hfind] at h
    -- What stands below the directory does so still, if only the new entry does.
    have hbelow : (other.isEmpty || tree.any fun e ↦ other.isPrefixOf e.names) = true := by
      by_contra hnot
      simp only [hnot, ↓reduceIte, reduceCtorEq] at h
    have hstill : (other.isEmpty ||
        (tree.put names content).any fun e ↦ other.isPrefixOf e.names) = true := by
      rw [Bool.or_eq_true, List.any_eq_true] at hbelow ⊢
      refine hbelow.imp_right ?_
      rintro ⟨e, he, hprefix⟩
      by_cases heq : e.names = names
      · exact ⟨⟨names, content⟩, List.mem_append_right _ (List.mem_singleton_self _), heq ▸ hprefix⟩
      · exact ⟨e, List.mem_append_left _ (List.mem_filter.mpr ⟨he, by simpa using heq⟩), hprefix⟩
    simp only [hstill, ↓reduceIte]

/-! ### Following names -/

/-- A name leads where the names after it lead from the directory that it names. -/
theorem follow_name_of_found (h : tree.at? front.reverse = some .directory) {name : String}
    (hdots : name ≠ "..") (hshort : ¬ nameLimit < name.utf8ByteSize)
    (hnext : tree.follow (name :: front) rest = .found names content) :
    tree.follow front (name :: rest) = .found names content := by
  rw [follow_name h hdots hshort, hnext]
  rintro rfl
  obtain ⟨rfl, hthere⟩ := at?_of_follow_nil hnext
  rw [hthere]
  exact Option.some_ne_none _

/-- What following a name can do if it ends at a place: it leads out of a directory, ends at a free
place of it, or leads on. -/
theorem follow_cons_cases {name : String} {place : List String}
    (h : (tree.follow front (name :: rest)).names? = some place) :
    tree.at? front.reverse = some .directory ∧
      (name = ".." ∨
        (name ≠ ".." ∧ ¬ nameLimit < name.utf8ByteSize ∧
          ((rest = [] ∧ tree.at? (name :: front).reverse = none ∧
            tree.follow front (name :: rest) = .free (name :: front).reverse) ∨
          (rest = [] → tree.at? (name :: front).reverse ≠ none)))) := by
  rw [follow] at h
  split at h
  · cases h
  · cases h
  · next hdirectory =>
    refine ⟨hdirectory, ?_⟩
    by_cases hdots : name = ".."
    · exact Or.inl hdots
    · have hname : (name == "..") = false := beq_eq_false_iff_ne.mpr hdots
      simp only [hname, Bool.false_eq_true, ↓reduceIte] at h
      split at h
      · cases h
      · next hshort =>
        refine Or.inr ⟨hdots, hshort, ?_⟩
        by_cases hfree : rest = [] ∧ tree.at? (name :: front).reverse = none
        · refine Or.inl ⟨hfree.1, hfree.2, ?_⟩
          rw [follow, hdirectory]
          simp only [hname, hshort, hfree.1, hfree.2, List.isEmpty_nil, Option.isNone_none,
            Bool.and_self, Bool.false_eq_true, ↓reduceIte]
        · exact Or.inr fun hrest hnone ↦ hfree ⟨hrest, hnone⟩

/-- What a trail says of the place that it ends at. -/
theorem at?_of_follow {place : List String} (h : (tree.follow front rest).names? = some place) :
    (∃ content, tree.follow front rest = .found place content ∧ tree.at? place = some content) ∨
      (tree.follow front rest = .free place ∧ tree.at? place = none) := by
  induction rest generalizing front with
  | nil =>
    rw [follow] at h ⊢
    split at h
    · next content hcontent =>
      cases h
      exact Or.inl ⟨content, rfl, hcontent⟩
    · cases h
  | cons name rest ih =>
    obtain ⟨hdirectory, rfl | ⟨hdots, hshort, ⟨-, hnone, hfree⟩ | hthere⟩⟩ := follow_cons_cases h
    · rw [follow_dots hdirectory] at h ⊢
      exact ih h
    · rw [hfree] at h ⊢
      cases h
      exact Or.inr ⟨rfl, hnone⟩
    · rw [follow_name hdirectory hdots hshort hthere] at h ⊢
      exact ih h

/-- Names without two dots lead down: the place that they lead to is named by them after the
directory that they start from. -/
theorem names_of_follow {place : List String} (hdots : ".." ∉ rest)
    (h : (tree.follow front rest).names? = some place) : place = front.reverse ++ rest := by
  induction rest generalizing front with
  | nil =>
    rw [List.append_nil]
    obtain ⟨content, hfound, -⟩ | ⟨hfree, -⟩ := at?_of_follow h
    · exact (at?_of_follow_nil hfound).1
    · rw [follow] at hfree
      split at hfree <;> cases hfree
  | cons name rest ih =>
    rw [List.mem_cons, not_or] at hdots
    obtain ⟨hdirectory, rfl | ⟨hname, hshort, ⟨rfl, -, hfree⟩ | hthere⟩⟩ := follow_cons_cases h
    · exact (hdots.1 rfl).elim
    · rw [hfree] at h
      cases h
      rw [List.reverse_cons]
    · rw [follow_name hdirectory hname hshort hthere] at h
      rw [ih hdots.2 h, List.reverse_cons, List.append_assoc, List.singleton_append]

/-- Where names lead, they lead from a directory that those before them lead to. -/
theorem follow_append {first : List String} {name : String} {place : List String}
    (h : (tree.follow front (first ++ name :: rest)).names? = some place) :
    ∃ base, tree.follow front first = .found base .directory ∧
      tree.follow front (first ++ name :: rest) = tree.follow base.reverse (name :: rest) := by
  induction first generalizing front with
  | nil =>
    obtain ⟨hdirectory, -⟩ := follow_cons_cases h
    refine ⟨front.reverse, ?_, by rw [List.nil_append, List.reverse_reverse]⟩
    rw [follow, hdirectory]
  | cons step first ih =>
    rw [List.cons_append] at h ⊢
    obtain ⟨hdirectory, rfl | ⟨hdots, hshort, ⟨hnil, -⟩ | hthere⟩⟩ := follow_cons_cases h
    · rw [follow_dots hdirectory] at h ⊢
      rw [follow_dots hdirectory]
      exact ih h
    · cases first <;> cases hnil
    · rw [follow_name hdirectory hdots hshort hthere] at h ⊢
      obtain ⟨base, hbase, hrest⟩ := ih h
      exact ⟨base, follow_name_of_found hdirectory hdots hshort hbase, hrest⟩

/-- Names that lead to a directory lead there in every tree that has the same directories. -/
theorem follow_mono {base : List String}
    (hkept : ∀ place, tree.at? place = some .directory → tree'.at? place = some .directory)
    (h : tree.follow front rest = .found base .directory) :
    tree'.follow front rest = .found base .directory := by
  induction rest generalizing front with
  | nil =>
    obtain ⟨rfl, hbase⟩ := at?_of_follow_nil h
    rw [follow, hkept _ hbase]
  | cons name rest ih =>
    have hnames : (tree.follow front (name :: rest)).names? = some base := congrArg Trail.names? h
    obtain ⟨hdirectory, rfl | ⟨hdots, hshort, ⟨-, -, hfree⟩ | hthere⟩⟩ :=
      follow_cons_cases hnames
    · rw [follow_dots hdirectory] at h
      rw [follow_dots (hkept _ hdirectory)]
      exact ih h
    · rw [hfree] at h
      cases h
    · rw [follow_name hdirectory hdots hshort hthere] at h
      exact follow_name_of_found (hkept _ hdirectory) hdots hshort (ih h)

theorem at?_of_found (h : tree.follow front rest = .found names content) :
    tree.at? names = some content := by
  obtain ⟨content', hfound, hthere⟩ | ⟨hfree, -⟩ := at?_of_follow (congrArg Trail.names? h)
  · cases h.symm.trans hfound
    exact hthere
  · cases h.symm.trans hfree

theorem at?_of_free (h : tree.follow front rest = .free names) : tree.at? names = none := by
  obtain ⟨content, hfound, -⟩ | ⟨-, hnone⟩ := at?_of_follow (congrArg Trail.names? h)
  · cases h.symm.trans hfound
  · exact hnone

/-- Names that lead to a free place lead to what is put there. -/
theorem follow_put_of_free (h : tree.follow front rest = .free names) (content : Content) :
    (tree.put names content).follow front rest = .found names content := by
  have hkept (place : List String) (hplace : tree.at? place = some .directory) :
      (tree.put names content).at? place = some .directory := by
    refine at?_put_directory hplace ?_ content
    rintro rfl
    cases (at?_of_free h).symm.trans hplace
  induction rest generalizing front with
  | nil =>
    rw [follow] at h
    split at h <;> cases h
  | cons name rest ih =>
    have hnames : (tree.follow front (name :: rest)).names? = some names :=
      congrArg Trail.names? h
    obtain ⟨hdirectory, rfl | ⟨hdots, hshort, ⟨rfl, -, hfree⟩ | hthere⟩⟩ := follow_cons_cases hnames
    · rw [follow_dots hdirectory] at h
      rw [follow_dots (hkept _ hdirectory), ih h]
    · cases hfree.symm.trans h
      have hput := at?_put_self (name :: front).reverse content tree
      rw [follow_name (hkept _ hdirectory) hdots hshort
        fun _ ↦ by rw [hput]; exact Option.some_ne_none _, follow, hput]
    · rw [follow_name hdirectory hdots hshort hthere] at h
      exact follow_name_of_found (hkept _ hdirectory) hdots hshort (ih h)

/-- Names that follow on others start from the directory that these lead to. -/
theorem follow_of_found {base : List String} (h : tree.follow front other = .found base .directory)
    (hrest : rest ≠ []) : tree.follow front (other ++ rest) = tree.follow base.reverse rest := by
  induction other generalizing front with
  | nil => rw [(at?_of_follow_nil h).1, List.reverse_reverse, List.nil_append]
  | cons name other ih =>
    have hnames : (tree.follow front (name :: other)).names? = some base := congrArg Trail.names? h
    obtain ⟨hdirectory, rfl | ⟨hdots, hshort, ⟨-, -, hfree⟩ | hthere⟩⟩ := follow_cons_cases hnames
    · rw [follow_dots hdirectory] at h
      rw [List.cons_append, follow_dots hdirectory, ih h]
    · rw [hfree] at h
      cases h
    · have hon : other ++ rest = [] → tree.at? (name :: front).reverse ≠ none :=
        fun hnil ↦ (hrest (List.append_eq_nil_iff.mp hnil).2).elim
      rw [follow_name hdirectory hdots hshort hthere] at h
      rw [List.cons_append, follow_name hdirectory hdots hshort hon, ih h]

end FileTree

/-! ### Workspaces -/

namespace Workspace

variable {w w' w'' : Workspace} {p : Path}

/-- Writing puts a file at the place that the path leads to, where no directory stands. -/
theorem write_eq_ok {text : String} (h : w.write p text = .ok w') :
    ∃ place, (w.trail p).names? = some place ∧ w.files.at? place ≠ some .directory ∧
      w' = { w with files := w.files.put place (.ofText text) } := by
  unfold write at h
  split at h
  · cases h
  · next names bytes htrail =>
    cases h
    refine ⟨names, by rw [htrail]; rfl, ?_, rfl⟩
    rw [FileTree.at?_of_found htrail]
    exact nofun
  · next names htrail =>
    cases h
    refine ⟨names, by rw [htrail]; rfl, ?_, rfl⟩
    rw [FileTree.at?_of_free htrail]
    exact nofun
  · cases h
  · cases h
  · cases h

/-- A path that leads to a directory leads there still after a file was written. -/
theorem trail_write {text : String} (h : w.write p text = .ok w') {q : Path} {base : List String}
    (hq : w.trail q = .found base .directory) : w'.trail q = .found base .directory := by
  obtain ⟨place, -, hfile, rfl⟩ := write_eq_ok h
  refine FileTree.follow_mono (fun other hother ↦ FileTree.at?_put_directory hother ?_ _) hq
  rintro rfl
  exact hfile hother

section Below

variable {root name : String} {names base : List String} {content : Content}

theorem fullNames_concat (w : Workspace) (root name : String) (names : List String) :
    w.fullNames ⟨root, names ++ [name]⟩ = w.fullNames ⟨root, names⟩ ++ [name] :=
  (List.append_assoc _ _ _).symm

/-- A name in a directory leads to what stands there or to a free place, unless it is too long. -/
theorem trail_below (h : w.trail ⟨root, names⟩ = .found base .directory) (hdots : name ≠ "..") :
    w.trail ⟨root, names ++ [name]⟩ =
      if nameLimit < name.utf8ByteSize then .overlong
      else match w.files.at? (base ++ [name]) with
        | some content => .found (base ++ [name]) content
        | none => .free (base ++ [name]) := by
  have hplace : (name :: base.reverse).reverse = base ++ [name] := by
    rw [List.reverse_cons, List.reverse_reverse]
  rw [trail, fullNames_concat, FileTree.follow_of_found h (List.cons_ne_nil _ _), FileTree.follow,
    List.reverse_reverse, FileTree.at?_of_found h, hplace]
  simp only [beq_eq_false_iff_ne.mpr hdots, Bool.false_eq_true, ↓reduceIte, List.isEmpty_nil,
    Bool.true_and]
  split
  · rfl
  · rw [FileTree.follow, hplace]
    cases w.files.at? (base ++ [name]) <;> rfl

/-- What is found under a name in a directory. -/
theorem find?_below (h : w.trail ⟨root, names⟩ = .found base .directory) (hdots : name ≠ "..") :
    w.find? ⟨root, names ++ [name]⟩ =
      if nameLimit < name.utf8ByteSize then none else w.files.at? (base ++ [name]) := by
  rw [find?, trail_below h hdots]
  by_cases hlong : nameLimit < name.utf8ByteSize
  · rw [if_pos hlong, if_pos hlong]
  · rw [if_neg hlong, if_neg hlong]
    cases w.files.at? (base ++ [name]) <;> rfl

/-- What is found under a name is found in a directory. -/
theorem exists_trail_of_find? (h : w.find? ⟨root, names ++ [name]⟩ = some content) :
    ∃ base, w.trail ⟨root, names⟩ = .found base .directory := by
  rw [find?] at h
  split at h
  · next place content' htrail =>
    rw [trail, fullNames_concat] at htrail
    obtain ⟨base, hbase, -⟩ := FileTree.follow_append (congrArg Trail.names? htrail)
    exact ⟨base, hbase⟩
  · cases h

/-- A file is written under a name in a directory unless the name is too long or is that of a
directory. -/
theorem write_below_eq_ok_iff (h : w.trail ⟨root, names⟩ = .found base .directory)
    (hdots : name ≠ "..") {text : String} :
    w.write ⟨root, names ++ [name]⟩ text = .ok w' ↔
      name.utf8ByteSize ≤ nameLimit ∧ w.files.at? (base ++ [name]) ≠ some .directory ∧
        w' = { w with files := w.files.put (base ++ [name]) (.ofText text) } := by
  rw [write, trail_below h hdots]
  by_cases hlong : nameLimit < name.utf8ByteSize
  · simp [hlong, hlong.not_ge]
  · rw [if_neg hlong, and_iff_right (not_lt.mp hlong)]
    cases w.files.at? (base ++ [name]) with
    | none => simp [eq_comm]
    | some content => cases content <;> simp [eq_comm]

end Below

/-- The same files with the same bytes stand in both workspaces. -/
def SameFiles (w w' : Workspace) : Prop :=
  ∀ names bytes, w'.files.at? names = some (.file bytes) ↔ w.files.at? names = some (.file bytes)

theorem SameFiles.trans (h : SameFiles w w') (h' : SameFiles w' w'') : SameFiles w w'' :=
  fun names bytes ↦ (h' names bytes).trans (h names bytes)

/-- A directory is made where nothing stands, and no file changes. -/
theorem makeSingle_files (h : w.makeSingle p = .ok w') : SameFiles w w' := by
  unfold makeSingle at h
  split at h
  · cases h
    exact fun _ _ ↦ Iff.rfl
  · cases h
  · next place htrail =>
    cases h
    intro names bytes
    by_cases hnames : names = place
    · rw [hnames, FileTree.at?_put_self, FileTree.at?_of_free htrail]
      exact iff_of_false nofun nofun
    · exact FileTree.at?_put_eq_file_iff hnames .directory
  · cases h
  · cases h
  · cases h

theorem makeFrom_files (root : String) (front : List String) : ∀ {w'},
    w.makeFrom root front = .ok w' → SameFiles w w' := by
  induction front with
  | nil =>
    intro w' h
    cases h
    exact fun _ _ ↦ Iff.rfl
  | cons name front ih =>
    intro w' h
    rw [makeFrom] at h
    split at h
    · cases hfront : w.makeFrom root front with
      | error e =>
        rw [hfront] at h
        cases h
      | ok made =>
        rw [hfront] at h
        exact (ih hfront).trans (makeSingle_files h)
    · exact makeSingle_files h

/-- A directory that was made is there. -/
theorem trail_of_makeSingle (h : w.makeSingle p = .ok w') :
    ∃ base, w'.trail p = .found base .directory := by
  unfold makeSingle at h
  split at h
  · next base htrail =>
    cases h
    exact ⟨base, htrail⟩
  · cases h
  · next base htrail =>
    cases h
    exact ⟨base, FileTree.follow_put_of_free htrail .directory⟩
  · cases h
  · cases h
  · cases h

/-- A directory with a name is made at once, or after those on the way to it if one of them is
missing. -/
theorem makeDirectory_cases (w : Workspace) (hp : p.names ≠ []) :
    w.makeDirectory p = w.makeSingle p ∨
      ∃ path front, w.makeSingle p = .error (.notFound path) ∧
        w.makeDirectory p = w.makeFrom p.root front >>= fun made ↦ made.makeSingle p := by
  obtain ⟨name, front, hfront⟩ :=
    List.exists_cons_of_ne_nil (mt List.reverse_eq_nil_iff.mp hp)
  have hpath : (⟨p.root, (name :: front).reverse⟩ : Path) = p := by
    rw [← hfront, List.reverse_reverse]
  rw [makeDirectory, hfront, makeFrom]
  simp only [hpath]
  split
  · next path hmissing => exact Or.inr ⟨path, front, hmissing, rfl⟩
  · exact Or.inl rfl

/-- A path with a name leads to a directory after that was made. -/
theorem trail_of_makeDirectory (hp : p.names ≠ []) (h : w.makeDirectory p = .ok w') :
    ∃ base, w'.trail p = .found base .directory := by
  obtain hsingle | ⟨path, front, -, hmake⟩ := w.makeDirectory_cases hp
  · exact trail_of_makeSingle (hsingle.symm.trans h)
  · obtain ⟨made, -, hmade⟩ := bind_eq_ok_iff.mp (hmake.symm.trans h)
    exact trail_of_makeSingle hmade

/-- A directory that is there is not made anew. -/
theorem makeDirectory_of_trail {base : List String} (hp : p.names ≠ [])
    (h : w.trail p = .found base .directory) : w.makeDirectory p = .ok w := by
  have hthere : w.makeSingle p = .ok w := by rw [makeSingle, h]
  obtain hsingle | ⟨path, front, hmissing, -⟩ := w.makeDirectory_cases hp
  · exact hsingle.trans hthere
  · cases hmissing.symm.trans hthere

/-- Making directories changes no file. -/
theorem makeDirectory_files (h : w.makeDirectory p = .ok w') : SameFiles w w' :=
  makeFrom_files _ _ h

end Workspace

end CodeSmells
