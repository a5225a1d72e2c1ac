import CodeSmells.Proofs.Report.Confinement
import CodeSmells.Proofs.Value.Written

/-!
# When no report overwrites another

A report as data is saved file by file into the directory of its run, and a save that breaks off
leaves the files before. `reports_kept_iff_stemsApart` says when everything is there afterwards. Two
conditions together are the exact ones. The save must not break off, which `Savable` puts down to
the directory, the lengths of the names and the lengths of the numbers. And the names of the files
must be distinct, which is `StemsApart`: else a file takes the place of an earlier one, and files
are left at fewer places than there are sources and a summary.

Only a file that `Fits` into a directory is written there (`exists_writeFile_eq_ok_iff`), and it
changes nothing at the place of another name (`at?_of_writeFile`). So whether files fit can be seen
before the first of them is written (`writeFiles_eq_none_iff`), and where names are distinct, all
texts stand at their places in the end (`at?_writeFiles_of_mem`).
-/

set_option autoImplicit false
set_option relaxedAutoImplicit false

namespace CodeSmells

/-! ### Writing files into a directory -/

namespace CommandLine

open Report

/-- A file can be written into a directory: it has a text, its name is not too long, and no
directory stands in its place. -/
structure Fits (w : Workspace) (base : List String) (f : OutputFile) : Prop where
  text : ∃ text, f.text = .ok text
  short : f.name.utf8ByteSize ≤ nameLimit
  free : w.files.at? (base ++ [f.name]) ≠ some .directory

section Writing

variable {w w' : Workspace} {directory : Path} {base : List String} {f : OutputFile}
  {fs : List OutputFile} {name : String}

/-- What is found under a name in a directory. -/
theorem find?_below_ofText (h : w.trail directory = .found base .directory)
    (hname : IsComponent name) :
    w.find? (directory.below (.ofText name)) =
      if nameLimit < name.utf8ByteSize then none else w.files.at? (base ++ [name]) := by
  rw [Path.below_ofText hname]
  exact Workspace.find?_below h hname.ne_dots

theorem writeFile_below_eq_ok_iff (h : w.trail directory = .found base .directory)
    (hf : IsComponent f.name) :
    writeFile w directory f = .ok w' ↔ ∃ text, f.text = .ok text ∧
      f.name.utf8ByteSize ≤ nameLimit ∧ w.files.at? (base ++ [f.name]) ≠ some .directory ∧
        w' = { w with files := w.files.put (base ++ [f.name]) (.ofText text) } := by
  rw [writeFile_eq_ok_iff, Path.below_ofText hf]
  exact exists_congr fun text ↦ and_congr_right fun _ ↦
    Workspace.write_below_eq_ok_iff h hf.ne_dots

theorem exists_writeFile_eq_ok_iff (h : w.trail directory = .found base .directory)
    (hf : IsComponent f.name) :
    (∃ w', writeFile w directory f = .ok w') ↔ Fits w base f := by
  simp only [writeFile_below_eq_ok_iff h hf]
  constructor
  · rintro ⟨-, text, htext, hshort, hfree, -⟩
    exact ⟨⟨text, htext⟩, hshort, hfree⟩
  · rintro ⟨⟨text, htext⟩, hshort, hfree⟩
    exact ⟨_, text, htext, hshort, hfree, rfl⟩

/-- A file that was written holds its text, and at the places of other names nothing changed. -/
theorem at?_of_writeFile (h : w.trail directory = .found base .directory)
    (hf : IsComponent f.name) (hwritten : writeFile w directory f = .ok w') :
    (∃ text, f.text = .ok text ∧ w'.files.at? (base ++ [f.name]) = some (.ofText text)) ∧
      ∀ name ≠ f.name, w'.files.at? (base ++ [name]) = w.files.at? (base ++ [name]) := by
  obtain ⟨text, htext, -, -, rfl⟩ := (writeFile_below_eq_ok_iff h hf).mp hwritten
  refine ⟨⟨text, htext, FileTree.at?_put_self _ _ _⟩, fun name hname ↦ ?_⟩
  refine FileTree.at?_put_of_not_isPrefix (fun hprefix ↦ hname ?_) _
  simpa [List.prefix_append_right_inj, List.cons_prefix_cons] using hprefix

theorem trail_of_writeFile {q : Path} (hq : w.trail q = .found base .directory)
    (hwritten : writeFile w directory f = .ok w') : w'.trail q = .found base .directory := by
  obtain ⟨text, -, hwrite⟩ := writeFile_eq_ok_iff.mp hwritten
  exact Workspace.trail_write hwrite hq

/-- Files are all written exactly when each fits before the first is written. -/
theorem writeFiles_eq_none_iff (h : w.trail directory = .found base .directory)
    (hfs : ∀ f ∈ fs, IsComponent f.name) :
    (writeFiles w directory fs).2 = none ↔ ∀ f ∈ fs, Fits w base f := by
  induction fs generalizing w with
  | nil => exact iff_of_true rfl (List.forall_mem_nil _)
  | cons f fs ih =>
    rw [List.forall_mem_cons] at hfs ⊢
    rw [writeFiles]
    split
    · next w₁ hwritten =>
      obtain ⟨⟨text, -, hthere⟩, hothers⟩ := at?_of_writeFile h hfs.1 hwritten
      have hfirst := (exists_writeFile_eq_ok_iff h hfs.1).mp ⟨w₁, hwritten⟩
      have hsame (g : OutputFile) : Fits w₁ base g ↔ Fits w base g := by
        refine ⟨fun hg ↦ ⟨hg.text, hg.short, ?_⟩, fun hg ↦ ⟨hg.text, hg.short, ?_⟩⟩
        · by_cases hname : g.name = f.name
          · exact hname ▸ hfirst.free
          · exact hothers _ hname ▸ hg.free
        · by_cases hname : g.name = f.name
          · rw [hname, hthere]
            rintro ⟨⟩
          · exact (hothers _ hname).symm ▸ hg.free
      rw [ih (trail_of_writeFile h hwritten) hfs.2, and_iff_right hfirst]
      simp only [hsame]
    · next e hfailed =>
      refine iff_of_false (Option.some_ne_none _) fun hfits ↦ ?_
      obtain ⟨w₁, hwritten⟩ := (exists_writeFile_eq_ok_iff h hfs.1).mpr hfits.1
      cases hfailed.symm.trans hwritten

/-- At the place of a name that no file has, nothing changes. -/
theorem at?_writeFiles_of_forall_ne (h : w.trail directory = .found base .directory)
    (hfs : ∀ f ∈ fs, IsComponent f.name) (hname : ∀ f ∈ fs, name ≠ f.name) :
    (writeFiles w directory fs).1.files.at? (base ++ [name]) = w.files.at? (base ++ [name]) := by
  induction fs generalizing w with
  | nil => rfl
  | cons f fs ih =>
    rw [List.forall_mem_cons] at hfs hname
    rw [writeFiles]
    split
    · next w₁ hwritten =>
      rw [ih (trail_of_writeFile h hwritten) hfs.2 hname.2,
        (at?_of_writeFile h hfs.1 hwritten).2 name hname.1]
    · rfl

/-- Where names are distinct, each file holds its text after all were written. -/
theorem at?_writeFiles_of_mem (h : w.trail directory = .found base .directory)
    (hfs : ∀ f ∈ fs, IsComponent f.name) (hnames : (fs.map (·.name)).Nodup)
    (hall : (writeFiles w directory fs).2 = none) (hf : f ∈ fs) :
    ∃ text, f.text = .ok text ∧
      (writeFiles w directory fs).1.files.at? (base ++ [f.name]) = some (.ofText text) := by
  induction fs generalizing w with
  | nil => cases hf
  | cons g fs ih =>
    rw [List.forall_mem_cons] at hfs
    rw [List.map_cons, List.nodup_cons] at hnames
    rw [writeFiles] at hall ⊢
    split at hall
    · next w₁ hwritten =>
      have hbase := trail_of_writeFile h hwritten
      rcases List.mem_cons.mp hf with rfl | hlater
      · have hothers : ∀ g ∈ fs, f.name ≠ g.name := fun g hg heq ↦
          hnames.1 (heq ▸ List.mem_map_of_mem hg)
        rw [at?_writeFiles_of_forall_ne hbase hfs.2 hothers]
        exact (at?_of_writeFile h hfs.1 hwritten).1
      · exact ih hbase hfs.2 hnames.2 hall hlater
    · cases hall

/-- A directory stays one while files are written. -/
theorem at?_writeFiles_directory {place : List String}
    (h : w.files.at? place = some .directory) :
    (writeFiles w directory fs).1.files.at? place = some .directory := by
  induction fs generalizing w with
  | nil => exact h
  | cons f fs ih =>
    rw [writeFiles]
    split
    · next w₁ hwritten =>
      obtain ⟨text, -, hwrite⟩ := writeFile_eq_ok_iff.mp hwritten
      obtain ⟨other, -, hfile, rfl⟩ := Workspace.write_eq_ok hwrite
      refine ih (FileTree.at?_put_directory h ?_ _)
      rintro rfl
      exact hfile h
    · exact h

end Writing

end CommandLine

/-! ### Reports that are kept -/

namespace Report

open CommandLine

/-- The directory of a run below an output directory. -/
def runDirectory (out : Path) (o : Outcome) (day : CalendarDay) (clock : ClockTime) : Path :=
  out.below (.ofText (directoryName o (runStamp day clock)))

/-- The file of a name in a directory holds a value as data. -/
def HoldsData (w : Workspace) (directory : Path) (name : String) (v : Value) : Prop :=
  ∃ text, Json.indented v = .ok text ∧
    w.find? (directory.below (.ofText name)) = some (.ofText text)

/-- No report of an outcome is lost in a workspace: the names of all files are distinct, the file
that the summary names for a source holds that source and its detected smells, the gravest first,
and the summary is there too. -/
structure ReportsKept (w : Workspace) (directory : Path) (o : Outcome) (includeDetails : Bool) :
    Prop where
  names_distinct : ((dataFiles o includeDetails).map (·.name)).Nodup
  source_held : ∀ source ∈ o.byFile.map (·.1), ∃ (name : String) (smells : List Result),
    namedReport? (summaryValue o) source = some name ∧
    smells.Perm (o.detected.filter fun r ↦ r.fileKey == source) ∧
    smells.Pairwise (fun a b ↦ b.severityLevel ≤ a.severityLevel) ∧
    HoldsData w directory name (.table [
      ("file", .text source), ("smells", .list (smells.map (Result.toValue includeDetails)))])
  summary_held : HoldsData w directory "summary.json" (summaryValue o)

/-- The report on an outcome can be saved as a whole. Its directory can be made, and then no
directory stands in the place of a file; no name of a file is too long; and no whole number in a
detected smell or in the summary is. -/
structure Savable (w : Workspace) (directory : Path) (o : Outcome) (includeDetails : Bool) :
    Prop where
  places_free : ∃ made, w.makeDirectory directory = .ok made ∧
    ∀ name ∈ reportNames o ++ ["summary.json"],
      made.find? (directory.below (.ofText name)) ≠ some .directory
  names_short : ∀ name ∈ reportNames o, name.utf8ByteSize ≤ nameLimit
  smells_short : ∀ r ∈ o.detected, ∀ n ∈ (r.toValue includeDetails).wholes, isLongNumber n = false
  summary_short : ∀ n ∈ (summaryValue o).wholes, isLongNumber n = false

section Files

variable {o : Outcome} {includeDetails : Bool} {name : String}

theorem wholes_payload (includeDetails : Bool) (source : String) (smells : List Result) :
    Value.wholes (.table [("file", .text source),
      ("smells", .list (smells.map (Result.toValue includeDetails)))]) =
        smells.flatMap fun r ↦ (r.toValue includeDetails).wholes := by
  simp only [Value.wholes, Value.wholesOfEntries, Value.wholesOfAll_eq, List.nil_append,
    List.append_nil, List.flatMap_map]

theorem fileKey_mem_byFile {r : Result} (hr : r ∈ o.detected) :
    r.fileKey ∈ o.byFile.map (·.1) := by
  have hkeys : o.byFile.map (·.1) = (o.detected.map Result.fileKey).eraseDups := by
    rw [Outcome.byFile, groupBy_eq, List.map_map]
    exact List.map_id _
  rw [hkeys, List.mem_eraseDups]
  exact List.mem_map_of_mem hr

/-- The files of an outcome have texts when the numbers in its smells and its summary are short. -/
theorem forall_exists_text_iff :
    (∀ f ∈ dataFiles o includeDetails, ∃ text, f.text = .ok text) ↔
      (∀ r ∈ o.detected, ∀ n ∈ (r.toValue includeDetails).wholes, isLongNumber n = false) ∧
        ∀ n ∈ (summaryValue o).wholes, isLongNumber n = false := by
  rw [dataFiles, List.forall_mem_append, List.forall_mem_map, List.forall_mem_singleton]
  refine and_congr ?_ (Json.writes_indented _).exists_ok_iff
  simp only [(Json.writes_indented _).exists_ok_iff, sourcePayload, wholes_payload]
  constructor
  · intro h r hr n hn
    obtain ⟨smells, name, hzip⟩ := exists_mem_zip_names o (fileKey_mem_byFile hr)
    have hsmells := members_of_mem_groupBy (List.of_mem_zip hzip).1
    refine h _ hzip n (List.mem_flatMap.mpr ⟨r, (gravestFirst_perm _).mem_iff.mpr ?_, hn⟩)
    rw [hsmells]
    exact List.mem_filter.mpr ⟨hr, BEq.rfl⟩
  · rintro h ⟨⟨source, smells⟩, name⟩ hzip n hn
    obtain ⟨r, hr, hn⟩ := List.mem_flatMap.mp hn
    have hsmells := members_of_mem_groupBy (List.of_mem_zip hzip).1
    have hin := (gravestFirst_perm _).mem_iff.mp hr
    rw [hsmells] at hin
    exact h r (List.mem_of_mem_filter hin) n hn

theorem exists_mem_dataFiles (includeDetails : Bool)
    (hname : name ∈ reportNames o ++ ["summary.json"]) :
    ∃ f ∈ dataFiles o includeDetails, f.name = name := by
  rwa [← dataFiles_names o includeDetails, List.mem_map] at hname

theorem name_mem_of_mem_dataFiles {f : OutputFile} (hf : f ∈ dataFiles o includeDetails) :
    f.name ∈ reportNames o ++ ["summary.json"] := by
  rw [← dataFiles_names o includeDetails]
  exact List.mem_map_of_mem hf

theorem isComponent_of_mem_dataFiles {f : OutputFile} (hf : f ∈ dataFiles o includeDetails) :
    IsComponent f.name := by
  have hfiles : f ∈ files o ⟨includeDetails, false⟩ .json := hf
  exact isComponent_of_mem_files hfiles

theorem isComponent_of_mem_names (hname : name ∈ reportNames o ++ ["summary.json"]) :
    IsComponent name := by
  obtain ⟨f, hf, rfl⟩ := exists_mem_dataFiles true hname
  exact isComponent_of_mem_dataFiles hf

end Files

section Saving

variable {w : Workspace} {directory : Path} {o : Outcome} {includeDetails : Bool}

/-- Once the directory is there, the report can be saved exactly when each of its files fits. -/
theorem forall_fits_iff {made : Workspace} {base : List String}
    (hmade : w.makeDirectory directory = .ok made)
    (hbase : made.trail directory = .found base .directory) :
    (∀ f ∈ dataFiles o includeDetails, Fits made base f) ↔
      Savable w directory o includeDetails := by
  constructor
  · intro hfits
    obtain ⟨hsmells, hsummary⟩ := forall_exists_text_iff.mp fun f hf ↦ (hfits f hf).text
    refine ⟨⟨made, hmade, fun name hname ↦ ?_⟩, fun name hname ↦ ?_, hsmells, hsummary⟩
    · obtain ⟨f, hf, rfl⟩ := exists_mem_dataFiles includeDetails hname
      rw [find?_below_ofText hbase (isComponent_of_mem_names hname),
        if_neg (hfits f hf).short.not_gt]
      exact (hfits f hf).free
    · obtain ⟨f, hf, rfl⟩ := exists_mem_dataFiles includeDetails (List.mem_append_left _ hname)
      exact (hfits f hf).short
  · intro hsavable f hf
    obtain ⟨made', hmade', hfree⟩ := hsavable.places_free
    cases hmade.symm.trans hmade'
    have hname := name_mem_of_mem_dataFiles hf
    have hshort : f.name.utf8ByteSize ≤ nameLimit := by
      rcases List.mem_append.mp hname with hreport | hsummary
      · exact hsavable.names_short _ hreport
      · rw [List.mem_singleton.mp hsummary]
        decide
    have hplace := hfree _ hname
    rw [find?_below_ofText hbase (isComponent_of_mem_names hname), if_neg hshort.not_gt] at hplace
    exact ⟨forall_exists_text_iff.mpr ⟨hsavable.smells_short, hsavable.summary_short⟩ f hf, hshort,
      hplace⟩

/-- A save breaks off exactly when the report cannot be saved. -/
theorem saveReport_eq_none_iff (hdirectory : directory.names ≠ []) :
    (saveReport w directory (dataFiles o includeDetails)).2 = none ↔
      Savable w directory o includeDetails := by
  rw [saveReport]
  split
  · next made hmade =>
    obtain ⟨base, hbase⟩ := Workspace.trail_of_makeDirectory hdirectory hmade
    rw [writeFiles_eq_none_iff hbase fun f hf ↦ isComponent_of_mem_dataFiles hf,
      forall_fits_iff hmade hbase]
  · next e hfailed =>
    refine iff_of_false (Option.some_ne_none _) fun hsavable ↦ ?_
    obtain ⟨made, hmade, -⟩ := hsavable.places_free
    cases hfailed.symm.trans hmade

theorem ReportsKept.stemsApart (h : ReportsKept w directory o includeDetails) :
    StemsApart (o.byFile.map fun g ↦ stemOf g.1) :=
  (dataFiles_names_nodup_iff o includeDetails).mp h.names_distinct

/-- Where reports are kept, a file is found under each of their names. -/
theorem ReportsKept.exists_find? (h : ReportsKept w directory o includeDetails) {name : String}
    (hname : name ∈ reportNames o ++ ["summary.json"]) :
    ∃ text, w.find? (directory.below (.ofText name)) = some (.ofText text) := by
  rcases List.mem_append.mp hname with hreport | hsummary
  · rw [← List.map_snd_zip (Nat.le_of_eq (length_reportNames o)), List.mem_map] at hreport
    obtain ⟨⟨⟨source, smells⟩, name⟩, hzip, rfl⟩ := hreport
    obtain ⟨name', -, hnamed, -, -, text, -, hthere⟩ :=
      h.source_held source (List.mem_map_of_mem (List.of_mem_zip hzip).1)
    rw [namedReport?_of_mem_zip o hzip] at hnamed
    cases hnamed
    exact ⟨text, hthere⟩
  · obtain ⟨text, -, hthere⟩ := h.summary_held
    exact ⟨text, List.mem_singleton.mp hsummary ▸ hthere⟩

theorem ReportsKept.forall_exists_text (h : ReportsKept w directory o includeDetails) :
    ∀ f ∈ dataFiles o includeDetails, ∃ text, f.text = .ok text := by
  refine forall_exists_text_iff.mpr ⟨fun r hr n hn ↦ ?_, ?_⟩
  · obtain ⟨-, smells, -, hsmells, -, text, htext, -⟩ :=
      h.source_held r.fileKey (fileKey_mem_byFile hr)
    have hshort := (Json.writes_indented _).exists_ok_iff.mp ⟨text, htext⟩
    rw [wholes_payload] at hshort
    have hin : r ∈ smells := hsmells.mem_iff.mpr (List.mem_filter.mpr ⟨hr, BEq.rfl⟩)
    exact hshort n (List.mem_flatMap.mpr ⟨r, hin, hn⟩)
  · obtain ⟨text, htext, -⟩ := h.summary_held
    exact (Json.writes_indented _).exists_ok_iff.mp ⟨text, htext⟩

/-- Reports that are kept were saved as a whole. -/
theorem savable_of_reportsKept (hdirectory : directory.names ≠ [])
    (h : ReportsKept (saveReport w directory (dataFiles o includeDetails)).1 directory o
      includeDetails) : Savable w directory o includeDetails := by
  rw [saveReport] at h
  split at h
  · next made hmade =>
    obtain ⟨base, hbase⟩ := Workspace.trail_of_makeDirectory hdirectory hmade
    have hstays := trail_writeFiles directory (dataFiles o includeDetails) hbase
    refine (forall_fits_iff hmade hbase).mp fun f hf ↦ ?_
    obtain ⟨text, hthere⟩ := h.exists_find? (name_mem_of_mem_dataFiles hf)
    rw [find?_below_ofText hstays (isComponent_of_mem_dataFiles hf)] at hthere
    split at hthere
    · cases hthere
    · next hshort =>
      refine ⟨h.forall_exists_text f hf, not_lt.mp hshort, fun hplace ↦ ?_⟩
      cases (at?_writeFiles_directory hplace).symm.trans hthere
  · next e hfailed =>
    -- The summary was there before, in the directory that could not be made.
    obtain ⟨text, -, hthere⟩ := h.summary_held
    have hname : "summary.json" ∈ reportNames o ++ ["summary.json"] :=
      List.mem_append_right _ (List.mem_singleton_self _)
    rw [Path.below_ofText (isComponent_of_mem_names hname)] at hthere
    obtain ⟨base, hbase⟩ := Workspace.exists_trail_of_find? hthere
    cases hfailed.symm.trans (Workspace.makeDirectory_of_trail hdirectory hbase)

/-- Where stems are apart, a report that can be saved is kept. -/
theorem reportsKept_of_stemsApart (hdirectory : directory.names ≠ [])
    (hapart : StemsApart (o.byFile.map fun g ↦ stemOf g.1))
    (hsavable : Savable w directory o includeDetails) :
    ReportsKept (saveReport w directory (dataFiles o includeDetails)).1 directory o
      includeDetails := by
  have hnames := (dataFiles_names_nodup_iff o includeDetails).mpr hapart
  obtain ⟨made, hmade, -⟩ := hsavable.places_free
  obtain ⟨base, hbase⟩ := Workspace.trail_of_makeDirectory hdirectory hmade
  have hfits := (forall_fits_iff hmade hbase).mpr hsavable
  have hcomponents : ∀ f ∈ dataFiles o includeDetails, IsComponent f.name :=
    fun f hf ↦ isComponent_of_mem_dataFiles hf
  have hheld {name : String} {v : Value}
      (hf : ⟨name, Json.indented v⟩ ∈ dataFiles o includeDetails) :
      HoldsData (writeFiles made directory (dataFiles o includeDetails)).1 directory name v := by
    obtain ⟨text, htext, hthere⟩ := at?_writeFiles_of_mem hbase hcomponents hnames
      ((writeFiles_eq_none_iff hbase hcomponents).mpr hfits) hf
    refine ⟨text, htext, ?_⟩
    rw [find?_below_ofText (trail_writeFiles directory _ hbase) (hcomponents _ hf),
      if_neg (hfits _ hf).short.not_gt]
    exact hthere
  rw [saveReport, hmade]
  refine ⟨hnames, fun source hsource ↦ ?_, hheld (List.mem_append_right _ List.mem_cons_self)⟩
  obtain ⟨smells, name, hzip⟩ := exists_mem_zip_names o hsource
  have hsmells := members_of_mem_groupBy (List.of_mem_zip hzip).1
  refine ⟨name, gravestFirst smells, namedReport?_of_mem_zip o hzip, ?_,
    gravestFirst_pairwise smells, hheld ?_⟩
  · rw [← hsmells]
    exact gravestFirst_perm smells
  · exact List.mem_append_left _ (List.mem_map.mpr ⟨((source, smells), name), hzip, rfl⟩)

end Saving

section Run

variable (w : Workspace) (out : Path) (o : Outcome) (style : Style) (day : CalendarDay)
  (clock : ClockTime)

theorem runDirectory_eq : runDirectory out o day clock =
    ⟨out.root, out.names ++ [directoryName o (runStamp day clock)]⟩ :=
  Path.below_ofText (isComponent_directoryName o day clock) out

theorem length_dataFiles (includeDetails : Bool) :
    (dataFiles o includeDetails).length = o.byFile.length + 1 := by
  rw [← List.length_map (·.name), dataFiles_names, List.length_append, length_reportNames,
    List.length_singleton]

/-- Where stems meet, the files of a report take fewer places than there are sources and a
summary. -/
theorem exists_places_of_not_stemsApart
    (hmeet : ¬ StemsApart (o.byFile.map fun g ↦ stemOf g.1)) :
    ∃ places : Finset (List String), places.card < o.byFile.length + 1 ∧
      ∀ names ∉ places, ∀ bytes,
        (afterSaving w out o style .json day clock).files.at? names = some (.file bytes) ↔
          w.files.at? names = some (.file bytes) := by
  have hfew : ((dataFiles o style.includeDetails).map (·.name)).toFinset.card <
      o.byFile.length + 1 := by
    rw [← length_dataFiles o style.includeDetails, ← List.length_map (·.name)]
    refine lt_of_le_of_ne (List.toFinset_card_le _) fun hall ↦ hmeet ?_
    rw [← dataFiles_names_nodup_iff o style.includeDetails]
    exact Multiset.toFinset_card_eq_card_iff_nodup.mp hall
  have hconfined := afterSaving_confined w out o style .json day clock
  by_cases hbase : ∃ base, (afterSaving w out o style .json day clock).trail out =
      .found base .directory
  · obtain ⟨base, hbase⟩ := hbase
    refine ⟨((dataFiles o style.includeDetails).map (·.name)).toFinset.image
      fun name ↦ base ++ [directoryName o (runStamp day clock), name],
      Finset.card_image_le.trans_lt hfew, fun names hnames bytes ↦ ?_⟩
    refine (hconfined names bytes).resolve_right ?_
    rintro ⟨base', hbase', f, hf, rfl⟩
    cases hbase.symm.trans hbase'
    exact hnames (Finset.mem_image_of_mem _ (List.mem_toFinset.mpr (List.mem_map_of_mem hf)))
  · refine ⟨∅, Nat.succ_pos _, fun names _ bytes ↦ (hconfined names bytes).resolve_right ?_⟩
    rintro ⟨base, hthere, -⟩
    exact hbase ⟨base, hthere⟩

/-- The reports of an outcome are kept by a save exactly when the stems of its sources are apart and
the report can be saved as a whole, which it can exactly when the save does not break off. Where
stems are not apart, the save changes files at fewer places than there are sources and a summary,
whatever stood in the workspace. -/
theorem reports_kept_iff_stemsApart :
    (ReportsKept (afterSaving w out o style .json day clock) (runDirectory out o day clock) o
        style.includeDetails ↔
      StemsApart (o.byFile.map fun g ↦ stemOf g.1) ∧
        Savable w (runDirectory out o day clock) o style.includeDetails) ∧
    ((saveReport w (runDirectory out o day clock) (files o style .json)).2 = none ↔
      Savable w (runDirectory out o day clock) o style.includeDetails) ∧
    (¬ StemsApart (o.byFile.map fun g ↦ stemOf g.1) →
      ∃ places : Finset (List String), places.card < o.byFile.length + 1 ∧
        ∀ names ∉ places, ∀ bytes,
          (afterSaving w out o style .json day clock).files.at? names = some (.file bytes) ↔
            w.files.at? names = some (.file bytes)) := by
  have hdirectory : (runDirectory out o day clock).names ≠ [] := by
    rw [runDirectory_eq]
    simp
  refine ⟨⟨fun hkept ↦ ⟨hkept.stemsApart, savable_of_reportsKept hdirectory hkept⟩, ?_⟩,
    saveReport_eq_none_iff hdirectory, exists_places_of_not_stemsApart w out o style day clock⟩
  rintro ⟨hapart, hsavable⟩
  exact reportsKept_of_stemsApart hdirectory hapart hsavable

end Run

/-- The directory of the report on one smell in each of some sources. -/
def sampleDirectory (sources : List String) : Path :=
  runDirectory (.ofText "out") (oneSmellEach sources) ⟨2026, 3, 1⟩ ⟨12, 30, 0, 0⟩

/-- What is left of the report on one smell in each of some sources in an empty workspace, and why
the save broke off if it did. -/
def savedSample (sources : List String) : Workspace × Option SaveError :=
  saveReport (.ofFiles ["work"] []) (sampleDirectory sources)
    (dataFiles (oneSmellEach sources) true)

/-- The save of the report on some sources goes through, and still the report is not kept. -/
structure LosesReports (sources : List String) : Prop where
  saved : (savedSample sources).2 = none
  not_kept : ¬ ReportsKept (savedSample sources).1 (sampleDirectory sources)
    (oneSmellEach sources) true

/-- The summary takes the place of the report on `summary.gd`, and the report on `a-2.gd` that of
the report on the second source of stem `a`. -/
theorem reports_lost :
    LosesReports ["summary.gd"] ∧ LosesReports ["a.gd", "b/a.gd", "a-2.gd"] := by
  refine ⟨⟨by decide +kernel, fun hkept ↦ ?_⟩, by decide +kernel, fun hkept ↦ ?_⟩
  · exact hkept.stemsApart.1 (by decide +kernel)
  · exact hkept.stemsApart.2 "a-2" (by decide +kernel) "a" 2 (by decide) (by decide +kernel)
      (by decide)

end Report

end CodeSmells
