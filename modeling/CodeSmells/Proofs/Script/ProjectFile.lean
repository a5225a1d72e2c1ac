import CodeSmells.Proofs.Grouping
import CodeSmells.Proofs.Script.Reading
import Mathlib.Data.List.Induction

/-!
# Which lines of a project file count

A project file is read line by line, and two things are kept: the section that is open and the
entries of all sections. Both are told here from the lines read so far, without the run. Open is the
section that the last header names (`current_run`), and a key has the value that the last line to
set it in its section gives it (`get?_entriesOf_run_iff`). A section has one entry for each key
(`nodup_keys_run`), so that its entries are these values and no others (`mem_entries_ofText_iff`).

`listed_iff_setsLast` says what this means for the scripts that are loaded as singletons: they are
told by the lines of the section on autoloads.
-/

set_option autoImplicit false
set_option relaxedAutoImplicit false

namespace CodeSmells

namespace Keyed

variable {α : Type} {name key : String} {a : α} {es : Keyed α}

theorem mem_keys_put : key ∈ (es.put name a).map (·.1) ↔ key = name ∨ key ∈ es.map (·.1) := by
  induction es with
  | nil => simp [put]
  | cons e es ih =>
    rw [put]
    split
    · next h =>
      rw [List.map_cons, List.mem_cons, List.map_cons, List.mem_cons, beq_iff_eq.mp h, or_self_left]
    · rw [List.map_cons, List.mem_cons, ih, List.map_cons, List.mem_cons]
      exact or_left_comm

/-- Putting a value under a name keeps the names distinct. -/
theorem nodup_keys_put (h : (es.map (·.1)).Nodup) : ((es.put name a).map (·.1)).Nodup := by
  induction es with
  | nil => exact List.nodup_singleton name
  | cons e es ih =>
    rw [List.map_cons, List.nodup_cons] at h
    rw [put]
    split
    · exact List.nodup_cons.mpr h
    · next hne =>
      refine List.nodup_cons.mpr ⟨fun hin ↦ ?_, ih h.2⟩
      rcases mem_keys_put.mp hin with heq | hlater
      · exact hne (beq_iff_eq.mpr heq)
      · exact h.1 hlater

/-- Where names are distinct, the entries are the values under them. -/
theorem mem_iff_get?_eq_some (h : (es.map (·.1)).Nodup) :
    (key, a) ∈ es ↔ es.get? key = some a := by
  constructor
  · intro hin
    rw [get?, find?_key h hin, Option.map_some]
  · intro hget
    obtain ⟨⟨key', a'⟩, hfound, rfl⟩ := Option.map_eq_some_iff.mp hget
    have hkey : key' = key := by simpa using List.find?_some hfound
    exact hkey ▸ List.mem_of_find?_eq_some hfound

end Keyed

namespace ProjectFile

/-! ### Lines of a project file -/

/-- Empty lines and comments say nothing. -/
def saysNothing (line : List Char) : Bool :=
  line.isEmpty || line.head? == some ';'

/-- The section that a line opens. -/
def opened? (line : List Char) : Option String :=
  if saysNothing line then none else sectionName? line

/-- The key that a line sets, and its value. -/
def entry? (line : List Char) : Option (String × String) :=
  if saysNothing line || (sectionName? line).isSome then none else keyValue? line

/-- The section that is open after some lines. -/
def openAfter (ls : List (List Char)) : String :=
  (ls.filterMap opened?).getLast?.getD ""

/-- What has been read after some lines. -/
def run (ls : List (List Char)) : Progress :=
  ls.foldl Progress.step {}

/-- The entries of a section. -/
def Progress.entriesOf (s : Progress) (header : String) : Keyed String :=
  (Keyed.get? header s.sections).getD []

/-- The lines of a project file without the blanks around them. -/
def fileLines (text : String) : List (List Char) :=
  (Text.lines text.toList).map Text.trim

theorem run_concat (ls : List (List Char)) (line : List Char) :
    run (ls ++ [line]) = (run ls).step line :=
  List.foldl_concat ..

theorem ofText_eq (text : String) : ofText text = (run (fileLines text)).sections := by
  rw [ofText, run, fileLines, List.foldl_map]

section Step

variable (s : Progress) (line : List Char)

/-- A line opens a section, sets a key in the open one or says nothing. -/
theorem step_cases :
    (∃ header, opened? line = some header ∧ entry? line = none ∧
      s.step line = { s with current := header }) ∨
    (∃ key value, opened? line = none ∧ entry? line = some (key, value) ∧ s.step line =
      { s with sections := s.sections.put s.current ((s.entriesOf s.current).put key value) }) ∨
    (opened? line = none ∧ entry? line = none ∧ s.step line = s) := by
  have hsays : (line.isEmpty || line.head? == some ';') = saysNothing line := rfl
  rw [Progress.step, opened?, entry?, hsays]
  cases saysNothing line with
  | true => exact Or.inr (Or.inr ⟨rfl, rfl, rfl⟩)
  | false =>
    cases sectionName? line with
    | some header => exact Or.inl ⟨header, rfl, rfl, rfl⟩
    | none =>
      cases keyValue? line with
      | some e => exact Or.inr (Or.inl ⟨e.1, e.2, rfl, rfl, rfl⟩)
      | none => exact Or.inr (Or.inr ⟨rfl, rfl, rfl⟩)

theorem current_step : (s.step line).current = (opened? line).getD s.current := by
  obtain ⟨header, hopened, -, hstep⟩ | ⟨key, value, hopened, -, hstep⟩ | ⟨hopened, -, hstep⟩ :=
    step_cases s line
  all_goals
    rw [hstep, hopened]
    rfl

/-- Only the section that is open gets an entry. -/
theorem entriesOf_step (header : String) :
    (s.step line).entriesOf header =
      match entry? line with
      | some (key, value) =>
        if header = s.current then (s.entriesOf header).put key value else s.entriesOf header
      | none => s.entriesOf header := by
  obtain ⟨name, -, hentry, hstep⟩ | ⟨key, value, -, hentry, hstep⟩ | ⟨-, hentry, hstep⟩ :=
    step_cases s line
  · rw [hstep, hentry]
    rfl
  · rw [hstep, hentry]
    by_cases hheader : header = s.current
    · rw [hheader, Progress.entriesOf, Keyed.get?_put_self, Option.getD_some]
      simp only [↓reduceIte]
    · rw [Progress.entriesOf, Keyed.get?_put_of_ne hheader]
      simp only [hheader, ↓reduceIte, Progress.entriesOf]
  · rw [hstep, hentry]

variable {s line} {header key value : String}

theorem get?_entriesOf_step_self (h : entry? line = some (key, value)) :
    ((s.step line).entriesOf s.current).get? key = some value := by
  rw [entriesOf_step, h]
  simp only [↓reduceIte, Keyed.get?_put_self]

/-- A line that does not set the key in the section leaves its value as it is. -/
theorem get?_entriesOf_step_of_not
    (h : ¬(s.current = header ∧ ∃ value, entry? line = some (key, value))) :
    ((s.step line).entriesOf header).get? key = (s.entriesOf header).get? key := by
  rw [entriesOf_step]
  split
  · next key' value hentry =>
    split
    · next hheader =>
      refine Keyed.get?_put_of_ne ?_ _ _
      rintro rfl
      exact h ⟨hheader.symm, value, hentry⟩
    · rfl
  · rfl

end Step

theorem current_run (ls : List (List Char)) : (run ls).current = openAfter ls := by
  induction ls using List.reverseRecOn with
  | nil => rfl
  | append_singleton ls line ih =>
    rw [run_concat, current_step, ih, openAfter, openAfter, List.filterMap_append]
    cases h : opened? line <;> simp [h]

/-! ### The last line to set a key -/

/-- The line below some lines sets a key in a section. -/
def SetsBelow (ls before : List (List Char)) (header key value : String) : Prop :=
  (∃ line, before ++ [line] <+: ls ∧ entry? line = some (key, value)) ∧ openAfter before = header

/-- Of the lines that set a key in a section it is the last one. -/
def SetsLast (ls before : List (List Char)) (header key value : String) : Prop :=
  SetsBelow ls before header key value ∧
    ∀ other value', SetsBelow ls other header key value' → other <+: before

theorem setsBelow_concat_iff {ls before : List (List Char)} {line : List Char}
    {header key value : String} :
    SetsBelow (ls ++ [line]) before header key value ↔
      (before = ls ∧ entry? line = some (key, value) ∧ openAfter ls = header) ∨
        SetsBelow ls before header key value := by
  simp only [SetsBelow, concat_prefix_concat_iff, or_and_right, exists_or, and_assoc,
    exists_and_left, exists_eq_left]
  refine or_congr_left (and_congr_right ?_)
  rintro rfl
  exact Iff.rfl

theorem SetsLast.unique {ls before before' : List (List Char)} {header key value value' : String}
    (h : SetsLast ls before header key value) (h' : SetsLast ls before' header key value') :
    value = value' := by
  obtain rfl : before = before' :=
    (h'.2 before value h.1).eq_of_length_le (h.2 before' value' h'.1).length_le
  obtain ⟨⟨⟨line, hline, hentry⟩, -⟩, -⟩ := h
  obtain ⟨⟨⟨line', hline', hentry'⟩, -⟩, -⟩ := h'
  obtain rfl : line = line' := eq_of_concat_prefix hline hline'
  cases hentry.symm.trans hentry'
  rfl

/-- A key has the value that the last line to set it in its section gives it. -/
theorem get?_entriesOf_run_iff (ls : List (List Char)) (header key value : String) :
    ((run ls).entriesOf header).get? key = some value ↔
      ∃ before, SetsLast ls before header key value := by
  induction ls using List.reverseRecOn with
  | nil =>
    refine ⟨nofun, ?_⟩
    rintro ⟨before, ⟨⟨⟨line, hbefore, -⟩, -⟩, -⟩⟩
    exact (not_concat_prefix_nil hbefore).elim
  | append_singleton ls line ih =>
    rw [run_concat]
    -- Either the new line sets the key in its section, as the last one to do so, or it changes
    -- nothing there.
    by_cases hsets : (run ls).current = header ∧ ∃ value', entry? line = some (key, value')
    · obtain ⟨rfl, value', hentry⟩ := hsets
      have hlast : SetsLast (ls ++ [line]) ls (run ls).current key value' := by
        refine ⟨setsBelow_concat_iff.mpr (Or.inl ⟨rfl, hentry, (current_run ls).symm⟩),
          fun other _ hother ↦ ?_⟩
        rcases setsBelow_concat_iff.mp hother with ⟨rfl, -⟩ | ⟨⟨_, hprefix, -⟩, -⟩
        · exact List.prefix_rfl
        · exact (List.prefix_append _ _).trans hprefix
      rw [get?_entriesOf_step_self hentry, Option.some.injEq]
      constructor
      · rintro rfl
        exact ⟨ls, hlast⟩
      · rintro ⟨before, hlast'⟩
        exact hlast.unique hlast'
    · have hsame : ∀ before value', SetsBelow (ls ++ [line]) before header key value' ↔
          SetsBelow ls before header key value' := by
        intro before value'
        rw [setsBelow_concat_iff, or_iff_right]
        rintro ⟨-, hentry, hopen⟩
        exact hsets ⟨(current_run ls).trans hopen, value', hentry⟩
      rw [get?_entriesOf_step_of_not hsets, ih]
      simp only [SetsLast, hsame]

/-- A section has one entry for each key. -/
theorem nodup_keys_run (ls : List (List Char)) (header : String) :
    (((run ls).entriesOf header).map (·.1)).Nodup := by
  induction ls using List.reverseRecOn with
  | nil => exact List.nodup_nil
  | append_singleton ls line ih =>
    rw [run_concat, entriesOf_step]
    split
    · split
      · exact Keyed.nodup_keys_put ih
      · exact ih
    · exact ih

/-- The entries of a section are those that the last lines to set a key in it set. -/
theorem mem_entries_ofText_iff (text header key value : String) :
    (key, value) ∈ (Keyed.get? header (ofText text)).getD [] ↔
      ∃ before, SetsLast (fileLines text) before header key value := by
  rw [ofText_eq, ← get?_entriesOf_run_iff]
  exact Keyed.mem_iff_get?_eq_some (nodup_keys_run _ _)

end ProjectFile

namespace Script

/-- The text of the file that describes a project, empty when it is missing or cannot be read. -/
def projectText (files : FileTree) : String :=
  ((files.at? ["project.godot"]).bind Content.text?).getD ""

/-- A script is loaded as a singleton when a line of the section on autoloads leads to it, the last
one to set its key there. -/
theorem listed_iff_setsLast (files : FileTree) (path : String) :
    Listed files path ↔ (Path.ofText path).suffix = ".gd" ∧
      ∃ before name value, resourcePath value = path ∧
        ProjectFile.SetsLast (ProjectFile.fileLines (projectText files)) before "autoload" name
          value := by
  have hentries (e : String × String) :
      e ∈ (Keyed.get? "autoload" (projectFileOf files)).getD [] ↔ ∃ before,
        ProjectFile.SetsLast (ProjectFile.fileLines (projectText files)) before "autoload" e.1
          e.2 :=
    ProjectFile.mem_entries_ofText_iff _ _ _ _
  rw [Listed]
  refine and_congr_right fun _ ↦ ?_
  simp only [hentries]
  constructor
  · rintro ⟨⟨name, value⟩, ⟨before, hlast⟩, hpath⟩
    exact ⟨before, name, value, hpath, hlast⟩
  · rintro ⟨before, name, value, hpath, hlast⟩
    exact ⟨(name, value), ⟨before, hlast⟩, hpath⟩

end Script

end CodeSmells
