import CodeSmells.CommandLine.Session
import CodeSmells.Proofs.File.Tree
import CodeSmells.Proofs.Model.Description
import CodeSmells.Proofs.Report.Names
import CodeSmells.Proofs.Text.Blank

/-!
# Reports stay inside the output directory

The names of a report's directory and files are made of texts that may hold anything: the name of
the project and the paths of source files. They go through `slug`, whose result `IsSlug`: a
non-empty text of safe characters without underscores at its ends (`isSlug_slug`), which another
`slug` leaves alone (`slug_of_isSlug`). A slug may still be a dot or two dots; but what is put
together from it never is, because a hyphen and digits or an ending follow it. So the directory of a
run and every file in it have names that are a `IsComponent` of a path
(`isComponent_directoryName`, `isComponent_of_mem_files`).

A path of one component goes one directory down (`below_ofText`), and names that are components lead
there and nowhere else. `writeFiles_confined` follows a report file by file: each is written two
names below the place of the output directory, and that place stays where it is.
`reports_stay_inside` states the whole.
-/

set_option autoImplicit false
set_option relaxedAutoImplicit false

namespace CodeSmells

namespace Report

/-! ### Slugs -/

/-- A text of safe characters that is not empty and has no underscore at either end. -/
structure IsSlug (s : String) : Prop where
  ne_empty : s ≠ ""
  safe : ∀ c ∈ s.toList, isSafe c = true
  head? : s.toList.head? ≠ some '_'
  getLast? : s.toList.getLast? ≠ some '_'

theorem replaceUnsafe_safe (cs : List Char) : ∀ c ∈ replaceUnsafe cs, isSafe c = true := by
  induction cs with
  | nil => exact nofun
  | cons c cs ih =>
    unfold replaceUnsafe
    split
    · next hsafe => exact List.forall_mem_cons.mpr ⟨hsafe, ih⟩
    · split
      · split
        · exact List.forall_mem_cons.mpr ⟨by decide, ih⟩
        · exact ih
      · exact List.forall_mem_cons.mpr ⟨by decide, nofun⟩

theorem replaceUnsafe_of_safe {cs : List Char} (h : ∀ c ∈ cs, isSafe c = true) :
    replaceUnsafe cs = cs := by
  induction cs with
  | nil => rfl
  | cons c cs ih =>
    rw [List.forall_mem_cons] at h
    unfold replaceUnsafe
    rw [if_pos h.1, ih h.2]

/-- Whatever the text, its slug is one. -/
theorem isSlug_slug (text : String) : IsSlug (slug text) := by
  unfold slug
  split
  · exact ⟨by decide, List.all_eq_true.mp (by decide), by decide, by decide⟩
  · next hne =>
    have hlist := String.toList_ofList (l := Text.dropAround (· == '_') (replaceUnsafe text.toList))
    constructor
    · intro hempty
      rw [hempty] at hlist
      exact hne hlist.symm
    · rw [hlist]
      exact fun c hc ↦ replaceUnsafe_safe _ c (Text.mem_of_mem_dropAround hc)
    · rw [hlist]
      exact fun hscore ↦ absurd (Text.head?_dropAround '_' hscore) (by decide)
    · rw [hlist]
      exact fun hscore ↦ absurd (Text.getLast?_dropAround '_' hscore) (by decide)

/-- A slug is left alone. -/
theorem slug_of_isSlug {s : String} (h : IsSlug s) : slug s = s := by
  have hends : Text.dropAround (· == '_') s.toList = s.toList := by
    refine Text.dropAround_eq_self_iff.mpr ⟨fun c hc ↦ ?_, fun c hc ↦ ?_⟩
    · exact beq_eq_false_iff_ne.mpr fun heq ↦ h.head? (heq ▸ hc)
    · exact beq_eq_false_iff_ne.mpr fun heq ↦ h.getLast? (heq ▸ hc)
  rw [slug, replaceUnsafe_of_safe h.safe, hends]
  split
  · next hnil => exact (h.ne_empty (String.toList_inj.mp hnil)).elim
  · exact String.ofList_toList

/-! ### Components of a path -/

/-- One component of a path: a non-empty text of safe characters, neither a dot nor two dots. -/
structure IsComponent (s : String) : Prop where
  ne_empty : s ≠ ""
  safe : ∀ c ∈ s.toList, isSafe c = true
  ne_dot : s ≠ "."
  ne_dots : s ≠ ".."

/-- A text of safe characters that are not all dots is a component. -/
theorem isComponent_of_mem {s : String} (hsafe : ∀ c ∈ s.toList, isSafe c = true) {c : Char}
    (hc : c ∈ s.toList) (hdot : c ≠ '.') : IsComponent s where
  ne_empty := by
    rintro rfl
    cases hc
  safe := hsafe
  ne_dot := by
    rintro rfl
    exact hdot (List.mem_singleton.mp hc)
  ne_dots := by
    rintro rfl
    simp at hc
    exact hdot hc

theorem isDigit_toString (n : Nat) : ∀ c ∈ (toString n).toList, c.isDigit = true := by
  intro c hc
  rw [Nat.toString_eq_repr, Nat.toList_repr] at hc
  exact Nat.isDigit_of_mem_toDigits (by decide) (by decide) hc

theorem isSafe_of_isDigit {c : Char} (h : c.isDigit = true) : isSafe c = true := by
  rw [isSafe, Char.isAlphanum, h, Bool.or_true, Bool.true_or, Bool.true_or, Bool.true_or]

theorem zeroPadded_safe (width n : Nat) : ∀ c ∈ (zeroPadded width n).toList, isSafe c = true := by
  intro c hc
  rw [zeroPadded, String.toList_append, String.toList_ofList, List.mem_append] at hc
  rcases hc with hzero | hdigit
  · rw [(List.mem_replicate.mp hzero).2]
    decide
  · exact isSafe_of_isDigit (isDigit_toString n c hdigit)

theorem hyphen_safe : ∀ c ∈ "-".toList, isSafe c = true :=
  List.all_eq_true.mp (by decide)

/-- The time of a run is written with digits and a hyphen. -/
theorem runStamp_safe (day : CalendarDay) (clock : ClockTime) :
    ∀ c ∈ (runStamp day clock).toList, isSafe c = true := by
  intro c hc
  simp only [runStamp, String.toList_append, List.mem_append] at hc
  rcases hc with (((((hc | hc) | hc) | hc) | hc) | hc) | hc
  · exact zeroPadded_safe _ _ c hc
  · exact zeroPadded_safe _ _ c hc
  · exact zeroPadded_safe _ _ c hc
  · exact hyphen_safe c hc
  · exact zeroPadded_safe _ _ c hc
  · exact zeroPadded_safe _ _ c hc
  · exact zeroPadded_safe _ _ c hc

example : runStamp ⟨2026, 3, 1⟩ ⟨12, 30, 0, 0⟩ = "20260301-123000" := by decide

/-- Whatever the project is called, the directory of a run is a component. -/
theorem isComponent_directoryName (o : Outcome) (day : CalendarDay) (clock : ClockTime) :
    IsComponent (directoryName o (runStamp day clock)) := by
  have hhyphen : '-' ∈ (directoryName o (runStamp day clock)).toList := by
    simp [directoryName]
  refine isComponent_of_mem (fun c hc ↦ ?_) hhyphen (by decide)
  simp only [directoryName, String.toList_append, List.mem_append] at hc
  rcases hc with (hslug | hhyphen) | hstamp
  · exact (isSlug_slug _).safe c hslug
  · exact hyphen_safe c hhyphen
  · exact runStamp_safe day clock c hstamp

/-! ### The names of the files -/

/-- The stem for a source is a slug. -/
theorem isSlug_stemOf (source : String) : IsSlug (stemOf source) := by
  unfold stemOf
  split
  · exact ⟨by decide, List.all_eq_true.mp (by decide), by decide, by decide⟩
  · exact isSlug_slug _

/-- A numbered slug with its ending is a component. -/
theorem isComponent_numberedName {stem : String} (h : IsSlug stem) (uses : Nat) :
    IsComponent (numberedName stem uses) := by
  have hending : ∀ c ∈ ".json".toList, isSafe c = true := List.all_eq_true.mp (by decide)
  have hletter : 'j' ∈ (numberedName stem uses).toList := by
    unfold numberedName
    split <;> simp
  refine isComponent_of_mem (fun c hc ↦ ?_) hletter (by decide)
  unfold numberedName at hc
  split at hc
  · rw [String.toList_append, List.mem_append] at hc
    exact hc.elim (h.safe c) (hending c)
  · simp only [String.toList_append, List.mem_append] at hc
    rcases hc with ((hc | hc) | hc) | hc
    · exact h.safe c hc
    · exact hyphen_safe c hc
    · exact isSafe_of_isDigit (isDigit_toString _ c hc)
    · exact hending c hc

/-- Whatever the sources are called, the files of a report are named by components. -/
theorem isComponent_of_mem_files {o : Outcome} {style : Style} {format : ReportFormat}
    {f : OutputFile} (hf : f ∈ files o style format) : IsComponent f.name := by
  cases format with
  | json =>
    have hname := List.mem_map_of_mem (f := OutputFile.name) hf
    rw [show files o style .json = dataFiles o style.includeDetails from rfl, dataFiles_names,
      List.mem_append] at hname
    rcases hname with hsource | hsummary
    · rw [reportNames, outputNames_eq, List.mem_map] at hsource
      obtain ⟨⟨stem, n⟩, huse, hname⟩ := hsource
      have hstem : stem ∈ (o.byFile.map (·.1)).map stemOf := by
        have hcount := (mem_uses_iff _ _).mp huse
        exact List.count_pos_iff.mp (by omega)
      obtain ⟨source, -, rfl⟩ := List.mem_map.mp hstem
      rw [← hname]
      exact isComponent_numberedName (isSlug_stemOf source) n
    · rw [List.mem_singleton.mp hsummary]
      exact isComponent_of_mem (c := 's') (List.all_eq_true.mp (by decide)) (by decide) (by decide)
  | txt =>
    rw [List.mem_singleton.mp hf]
    show IsComponent "report.txt"
    exact isComponent_of_mem (c := 'r') (List.all_eq_true.mp (by decide)) (by decide) (by decide)
  | html =>
    rw [List.mem_singleton.mp hf]
    show IsComponent "report.html"
    exact isComponent_of_mem (c := 'r') (List.all_eq_true.mp (by decide)) (by decide) (by decide)

end Report

/-! ### Paths of components -/

namespace Path

open Report (IsComponent)

/-- A component is a path of one name. -/
theorem ofText_of_isComponent {s : String} (h : IsComponent s) : ofText s = ⟨"", [s]⟩ := by
  have hslash : ∀ c ∈ s.toList, (c == '/') = false := fun c hc ↦ by
    refine beq_eq_false_iff_ne.mpr ?_
    rintro rfl
    exact absurd (h.safe _ hc) (by decide)
  have hroot : rootOf s.toList = "" := by
    have hnone : s.toList.takeWhile (· == '/') = [] := by
      cases hlist : s.toList with
      | nil => rfl
      | cons c cs =>
        have hc := hslash c (hlist ▸ List.mem_cons_self)
        rw [List.takeWhile_cons, hc, if_neg Bool.false_ne_true]
    rw [rootOf, hnone]
    rfl
  have hnames : namesOf s.toList = [s] := by
    rw [namesOf, List.splitOnP_eq_singleton hslash]
    simp [h.ne_empty, h.ne_dot]
  rw [ofText, hroot, hnames]

/-- The path below a directory that a component leads to. -/
theorem below_ofText {s : String} (h : IsComponent s) (directory : Path) :
    directory.below (ofText s) = ⟨directory.root, directory.names ++ [s]⟩ := by
  rw [ofText_of_isComponent h]
  rfl

end Path

/-! ### Writing the files -/

namespace CommandLine

open Report

variable {w w' : Workspace} {out : Path} {d : String}

/-- A file of a report is written two names below the place of the output directory. -/
theorem write_confined (hd : IsComponent d) {name text : String} (hname : IsComponent name)
    (h : w.write ⟨out.root, out.names ++ [d, name]⟩ text = .ok w') :
    ∃ base, w.trail out = .found base .directory ∧ ∀ names ≠ base ++ [d, name], ∀ bytes,
      w'.files.at? names = some (.file bytes) ↔ w.files.at? names = some (.file bytes) := by
  obtain ⟨place, hplace, -, rfl⟩ := Workspace.write_eq_ok h
  have hnames : w.fullNames ⟨out.root, out.names ++ [d, name]⟩ = w.fullNames out ++ [d, name] :=
    (List.append_assoc _ _ _).symm
  rw [Workspace.trail, hnames] at hplace
  obtain ⟨base, hbase, hbelow⟩ := FileTree.follow_append hplace
  have hdots : ".." ∉ [d, name] := by
    simp [hd.ne_dots.symm, hname.ne_dots.symm]
  rw [hbelow] at hplace
  have hlast := FileTree.names_of_follow hdots hplace
  rw [List.reverse_reverse] at hlast
  refine ⟨base, hbase, fun names hne bytes ↦ ?_⟩
  exact FileTree.at?_put_eq_file_iff (fun heq ↦ hne (heq.trans hlast)) _

/-- A file that is written has a text, which stands at the path of its name. -/
theorem writeFile_eq_ok_iff {directory : Path} {f : OutputFile} :
    writeFile w directory f = .ok w' ↔ ∃ text, f.text = .ok text ∧
      w.write (directory.below (.ofText f.name)) text = .ok w' := by
  rw [writeFile, bind_eq_ok_iff]
  simp only [mapError_eq_ok_iff]

theorem trail_writeFiles {base : List String} (directory : Path) (fs : List OutputFile) :
    ∀ {w : Workspace}, w.trail out = .found base .directory →
      (writeFiles w directory fs).1.trail out = .found base .directory := by
  induction fs with
  | nil => exact fun h ↦ h
  | cons f fs ih =>
    intro w h
    rw [writeFiles]
    split
    · next hwritten =>
      obtain ⟨text, -, hwrite⟩ := writeFile_eq_ok_iff.mp hwritten
      exact ih (Workspace.trail_write hwrite h)
    · exact h

/-- Files of a report change nothing but themselves, two names below the place of the output
directory. -/
theorem writeFiles_confined (hd : IsComponent d) (fs : List OutputFile) :
    ∀ {w : Workspace}, (∀ f ∈ fs, IsComponent f.name) → ∀ names bytes,
      ((writeFiles w ⟨out.root, out.names ++ [d]⟩ fs).1.files.at? names = some (.file bytes) ↔
        w.files.at? names = some (.file bytes)) ∨
      ∃ base, (writeFiles w ⟨out.root, out.names ++ [d]⟩ fs).1.trail out =
        .found base .directory ∧ ∃ f ∈ fs, names = base ++ [d, f.name] := by
  induction fs with
  | nil => exact fun _ _ _ ↦ Or.inl Iff.rfl
  | cons f fs ih =>
    intro w hnames names bytes
    rw [List.forall_mem_cons] at hnames
    rw [writeFiles]
    split
    · next w₁ hwritten =>
      obtain ⟨text, -, hwrite⟩ := writeFile_eq_ok_iff.mp hwritten
      have hpath : Path.below ⟨out.root, out.names ++ [d]⟩ (.ofText f.name) =
          ⟨out.root, out.names ++ [d, f.name]⟩ := by
        rw [Path.below_ofText hnames.1, List.append_assoc, List.singleton_append]
      obtain ⟨base, hbase, hothers⟩ := write_confined hd hnames.1 (hpath ▸ hwrite)
      have hstays := trail_writeFiles ⟨out.root, out.names ++ [d]⟩ fs
        (Workspace.trail_write hwrite hbase)
      by_cases hfile : names = base ++ [d, f.name]
      · exact Or.inr ⟨base, hstays, f, List.mem_cons_self, hfile⟩
      · rcases ih hnames.2 names bytes with hsame | ⟨base', hbase', g, hg, hplace⟩
        · exact Or.inl (hsame.trans (hothers names hfile bytes))
        · exact Or.inr ⟨base', hbase', g, List.mem_cons_of_mem _ hg, hplace⟩
    · exact Or.inl Iff.rfl

/-- The workspace after the report on an outcome was saved below an output directory. -/
def afterSaving (w : Workspace) (out : Path) (o : Outcome) (style : Style) (format : ReportFormat)
    (day : CalendarDay) (clock : ClockTime) : Workspace :=
  (saveReport w (out.below (.ofText (directoryName o (runStamp day clock))))
    (files o style format)).1

/-- Whatever stands in the workspace, a save changes no file but those of the report, two names
below the place of the output directory. -/
theorem afterSaving_confined (w : Workspace) (out : Path) (o : Outcome) (style : Style)
    (format : ReportFormat) (day : CalendarDay) (clock : ClockTime) (names : List String)
    (bytes : ByteArray) :
    ((afterSaving w out o style format day clock).files.at? names = some (.file bytes) ↔
      w.files.at? names = some (.file bytes)) ∨
    ∃ base, (afterSaving w out o style format day clock).trail out = .found base .directory ∧
      ∃ f ∈ files o style format,
        names = base ++ [directoryName o (runStamp day clock), f.name] := by
  have hd := isComponent_directoryName o day clock
  unfold afterSaving saveReport
  rw [Path.below_ofText hd]
  split
  · next w₁ hmade =>
    refine (writeFiles_confined hd _ (fun f hf ↦ isComponent_of_mem_files hf) names
      bytes).imp_left fun hsame ↦ ?_
    exact hsame.trans (Workspace.makeDirectory_files hmade names bytes)
  · exact Or.inl Iff.rfl

/-- A saved report stays inside the output directory. A slug is a non-empty text of safe characters
without underscores at its ends, and its own slug. The name of the directory of a run and the names
of its files are single components, so that a file has the path of the output directory and those
two. Whatever stands in the workspace, no file is written, changed or removed at any other place
than those two names below the place of the output directory. -/
theorem reports_stay_inside (w : Workspace) (out : Path) (o : Outcome) (style : Style)
    (format : ReportFormat) (day : CalendarDay) (clock : ClockTime) :
    (∀ text, IsSlug (slug text) ∧ slug (slug text) = slug text) ∧
    IsComponent (directoryName o (runStamp day clock)) ∧
    (∀ f ∈ files o style format, IsComponent f.name ∧
      (out.below (.ofText (directoryName o (runStamp day clock)))).below (.ofText f.name) =
        ⟨out.root, out.names ++ [directoryName o (runStamp day clock), f.name]⟩) ∧
    ∀ names bytes,
      ((afterSaving w out o style format day clock).files.at? names = some (.file bytes) ↔
        w.files.at? names = some (.file bytes)) ∨
      ∃ base, (afterSaving w out o style format day clock).trail out = .found base .directory ∧
        ∃ f ∈ files o style format,
          names = base ++ [directoryName o (runStamp day clock), f.name] := by
  have hd := isComponent_directoryName o day clock
  refine ⟨fun text ↦ ⟨isSlug_slug text, slug_of_isSlug (isSlug_slug text)⟩, hd,
    fun f hf ↦ ⟨isComponent_of_mem_files hf, ?_⟩,
    afterSaving_confined w out o style format day clock⟩
  rw [Path.below_ofText hd, Path.below_ofText (isComponent_of_mem_files hf), List.append_assoc,
    List.singleton_append]

end CommandLine

end CodeSmells
