import CodeSmells.Proofs.Model.Description
import CodeSmells.Script.Folder

/-!
# What a reading of a project gives

A reader opens the scripts of a directory, takes them in one by one and then reads the scenes. It
keeps its counts from one reading to the next, flags the class of a singleton in one place and lists
it in another, and drops a script at any point where it goes wrong. `read_eq` says what comes out
all the same: the project of `contributions`, which are what the single scripts give, with the
flagged classes as autoloads, and counts that tell the scripts that gave something from the others.

One step of the run is `takeScript_eq`, and `foldl_takeScript` follows from it by induction. That
the two places agree is in the step: a script's setting holds the name of its singleton, its own
class is flagged when there is such a name and its inner classes never are (`flagged_of_parseTree`).
So the autoloads of a project are flagged classes of it, which is what `Project.make` asks for
(`Project.make_eq_ok`), and a reading fails only for the name of a scene (`exists_scenesOf_iff`).

`reading_consistent` puts this together with the order of the scripts (`filesWith_ordered`) and with
what is listed as a singleton (`listed_iff`).

Project files and scenes are read line by line. What a reader does at a line is told by the lines
above it, and `concat_prefix_concat_iff` says which lines these are once another one has been read.
-/

set_option autoImplicit false
set_option relaxedAutoImplicit false

namespace CodeSmells

/-! ### The line below some lines -/

section Below

variable {α : Type} {xs before : List α} {x y : α}

theorem not_concat_prefix_nil : ¬ before ++ [x] <+: [] :=
  fun h ↦ List.append_ne_nil_of_right_ne_nil _ (List.cons_ne_nil _ _) (List.prefix_nil.mp h)

/-- The line below some lines is the one that was added at the end, or was there before. -/
theorem concat_prefix_concat_iff :
    before ++ [x] <+: xs ++ [y] ↔ (before = xs ∧ x = y) ∨ before ++ [x] <+: xs := by
  rw [List.prefix_concat_iff]
  refine or_congr_left ⟨fun h ↦ ?_, ?_⟩
  · obtain ⟨hbefore, hlast⟩ := List.append_inj' h rfl
    exact ⟨hbefore, List.singleton_inj.mp hlast⟩
  · rintro ⟨rfl, rfl⟩
    rfl

/-- One line only is right below some lines. -/
theorem eq_of_concat_prefix (h : before ++ [x] <+: xs) (h' : before ++ [y] <+: xs) : x = y := by
  have hsame : before ++ [x] = before ++ [y] :=
    (List.prefix_of_prefix_length_le h h' (by simp)).eq_of_length (by simp)
  exact List.singleton_inj.mp (List.append_cancel_left hsame)

end Below

/-! ### The order of paths -/

theorem namesBefore_eq_true_iff (as bs : List String) : namesBefore as bs = true ↔ as < bs := by
  induction as generalizing bs with
  | nil => cases bs <;> simp [namesBefore]
  | cons a as ih =>
    cases bs with
    | nil => simp [namesBefore]
    | cons b bs =>
      rw [namesBefore, List.cons_lt_cons_iff]
      by_cases h : a = b
      · simp [h, ih]
      · simp [h]

theorem FileTree.sorted_pairwise (files : FileTree) :
    files.sorted.Pairwise fun a b ↦ a.names ≤ b.names := by
  have hle : ∀ a b : FileEntry, (!namesBefore b.names a.names) = true ↔ a.names ≤ b.names := by
    intro a b
    rw [Bool.not_eq_true', ← Bool.not_eq_true, namesBefore_eq_true_iff, not_lt]
  refine (List.pairwise_mergeSort ?_ ?_ files).imp fun {a b} h ↦ (hle a b).mp h
  · intro a b c hab hbc
    exact (hle a c).mpr (((hle a b).mp hab).trans ((hle b c).mp hbc))
  · intro a b
    rw [Bool.or_eq_true, hle, hle]
    exact le_total a.names b.names

/-! ### The parts of a project -/

/-- A script is among the autoloads when it was found before or an entry leads to it. -/
theorem ProjectFile.isSome_get?_foldl (path : String) (entries found : Keyed String) :
    ((entries.foldl (fun found (name, value) ↦
      let path := resourcePath value
      if (Path.ofText path).suffix == ".gd" then Keyed.put path name found else found)
      found).get? path).isSome ↔
    (found.get? path).isSome ∨
      (Path.ofText path).suffix = ".gd" ∧ ∃ e ∈ entries, resourcePath e.2 = path := by
  induction entries generalizing found with
  | nil => simp
  | cons e entries ih =>
    rw [List.foldl_cons, ih]
    by_cases hpath : resourcePath e.2 = path
    · subst hpath
      by_cases hscript : (Path.ofText (resourcePath e.2)).suffix = ".gd"
      · simp [hscript, Keyed.get?_put_self]
      · simp [hscript]
    · by_cases hscript : (Path.ofText (resourcePath e.2)).suffix = ".gd"
      · simp [hscript, hpath, Keyed.get?_put_of_ne (Ne.symm hpath)]
      · simp [hscript, hpath]

/-- A scene can be read when its file has a name. -/
theorem Scene.exists_ofText_iff (text path : String) :
    (∃ s, Scene.ofText text path = .ok s) ↔ Text.trimmed (Path.ofText path).stem ≠ "" := by
  simp only [Scene.ofText, Scene.make, bind_eq_ok_iff, pure_eq_ok_iff, identifier_eq_ok_iff,
    Value.withoutBlanks, Value.text.injEq]
  constructor
  · rintro ⟨_, _, ⟨rfl, hname⟩, -⟩
    exact hname
  · intro hname
    exact ⟨_, _, ⟨rfl, hname⟩, rfl⟩

/-- A project whose autoloads are flagged classes of it is accepted. -/
theorem Project.make_eq_ok {classes autoloads : List Class}
    (hautoloads : ∀ a ∈ autoloads, a.autoload = true ∧ a ∈ classes)
    (scenes : List Scene) (signals : List Signal) (name : String) :
    Project.make classes scenes autoloads signals name =
      .ok ⟨classes, scenes, autoloads, signals, name⟩ := by
  unfold Project.make
  refine bind_eq_ok_iff.mpr ⟨PUnit.unit, ?_, rfl⟩
  induction autoloads with
  | nil => rfl
  | cons a rest ih =>
    rw [List.forall_mem_cons] at hautoloads
    obtain ⟨⟨hflag, hin⟩, hrest⟩ := hautoloads
    rw [List.forIn_cons]
    simpa [hflag, hin] using ih hrest

namespace Script

/-! ### The files of a project -/

/-- Whether an entry is a file with the given suffix outside the directories that are left out. -/
def belongs (suffix : String) (e : FileEntry) : Bool :=
  match e.content with
  | .directory => false
  | .file _ => (Path.mk "" e.names).suffix == suffix && !isSkipped e.names.dropLast

/-- The source that an entry is. -/
def sourceOf (e : FileEntry) : ProjectSource :=
  ⟨String.intercalate "/" e.names, e.content.text?⟩

theorem filesWith_eq (suffix : String) (files : FileTree) :
    filesWith suffix files = (files.sorted.filter (belongs suffix)).map sourceOf := by
  rw [filesWith, ← List.filterMap_eq_map, List.filterMap_filter]
  congr 1
  funext e
  obtain ⟨names, content⟩ := e
  cases content <;> simp [belongs, sourceOf]

/-- The files of a project are those that belong to it, each once, in the order of their paths. -/
theorem filesWith_ordered (suffix : String) (files : FileTree) :
    ∃ entries : FileTree, entries.Perm (files.filter (belongs suffix)) ∧
      entries.Pairwise (fun a b ↦ a.names ≤ b.names) ∧
      filesWith suffix files = entries.map sourceOf :=
  ⟨files.sorted.filter (belongs suffix), (List.mergeSort_perm files _).filter _,
    files.sorted_pairwise.filter _, filesWith_eq suffix files⟩

/-- A script is listed when an entry of the section on autoloads leads to it. -/
def Listed (files : FileTree) (path : String) : Prop :=
  (Path.ofText path).suffix = ".gd" ∧
    ∃ e ∈ (Keyed.get? "autoload" (projectFileOf files)).getD [], resourcePath e.2 = path

theorem listed_iff (files : FileTree) (path : String) :
    ((projectFileOf files).autoloads.get? path).isSome ↔ Listed files path := by
  rw [ProjectFile.autoloads, ProjectFile.isSome_get?_foldl]
  simp [Listed, Keyed.get?]

instance (files : FileTree) (path : String) : Decidable (Listed files path) :=
  decidable_of_iff _ (listed_iff files path)

theorem decide_listed (files : FileTree) (path : String) :
    decide (Listed files path) = ((projectFileOf files).autoloads.get? path).isSome := by
  rw [Bool.eq_iff_iff, decide_eq_true_iff, listed_iff]

/-- The scenes of a project can be read when those that have a text have a name as well. -/
theorem exists_scenesOf_iff (files : FileTree) :
    (∃ scenes, scenesOf files = .ok scenes) ↔ ∀ s ∈ filesWith ".tscn" files,
      s.text.isSome → Text.trimmed (Path.ofText s.path).stem ≠ "" := by
  simp only [scenesOf, exists_mapM_eq_ok_iff, Scene.exists_ofText_iff, List.mem_filterMap,
    Option.map_eq_some_iff, Option.isSome_iff_exists]
  constructor
  · rintro h s hs ⟨text, htext⟩
    exact h (s.path, text) ⟨s, hs, text, htext, rfl⟩
  · rintro h _ ⟨s, hs, text, htext, rfl⟩
    exact h s hs ⟨text, htext⟩

theorem settingFor_autoloadName (autoloads : Keyed String) (scripts : List ScriptSource)
    (path : String) : (settingFor autoloads scripts path).autoloadName = autoloads.get? path :=
  rfl

/-! ### Which classes of a script are flagged -/

/-- The classes of a script: its own, which is flagged or not, and inner ones without a flag. -/
def Flagged (autoload : Bool) (classes : List Class) : Prop :=
  ∃ own inner, classes = own :: inner ∧ own.autoload = autoload ∧ ∀ k ∈ inner, k.autoload = false

theorem buildClass_autoload {filePath : String} {autoload : Bool} {known : Option (List String)}
    {k : ClassOutline} {c : Class} (h : buildClass filePath autoload known k = .ok c) :
    c.autoload = autoload := by
  simp only [buildClass, bind_eq_ok_iff, pure_eq_ok_iff] at h
  obtain ⟨_, -, _, -, _, -, rfl⟩ := h
  rfl

mutual

theorem flagged_of_buildAll {filePath : String} {autoload : Bool} {known : Option (List String)} :
    ∀ (k : ClassOutline) {p : Parsed}, buildAll filePath autoload known k = .ok p →
      Flagged autoload p.classes
  | ⟨_, _, _, _, _, _, _, _, inner⟩, p, h => by
    simp only [buildAll, bind_eq_ok_iff, pure_eq_ok_iff] at h
    obtain ⟨own, hown, rest, hrest, rfl⟩ := h
    exact ⟨own, rest.classes, rfl, buildClass_autoload hown, unflagged_of_buildInner inner hrest⟩

theorem unflagged_of_buildInner {filePath : String} {known : Option (List String)} :
    ∀ (ks : List ClassOutline) {p : Parsed}, buildInner filePath known ks = .ok p →
      ∀ c ∈ p.classes, c.autoload = false
  | [], p, h => by
    cases h
    exact nofun
  | k :: ks, p, h => by
    simp only [buildInner, bind_eq_ok_iff, pure_eq_ok_iff] at h
    obtain ⟨first, hfirst, rest, hrest, rfl⟩ := h
    obtain ⟨own, inner, hclasses, hown, hinner⟩ := flagged_of_buildAll k hfirst
    simp only [hclasses, List.cons_append, List.forall_mem_cons, List.forall_mem_append]
    exact ⟨hown, hinner, unflagged_of_buildInner ks hrest⟩

end

theorem flagged_of_parseTree {tree : SyntaxTree} {source : String} {s : Setting} {p : Parsed}
    (h : parseTree tree source s = .ok p) : Flagged s.autoloadName.isSome p.classes := by
  simp only [parseTree] at h
  split at h
  · cases h
  obtain ⟨_, -, hbuilt⟩ := bind_eq_ok_iff.mp h
  generalize hall : buildAll s.filePath _ s.knownClasses _ = built at hbuilt
  cases built with
  | error e => cases hbuilt
  | ok q =>
    cases hbuilt
    exact flagged_of_buildAll _ hall

/-- Taking the own class of a singleton and nothing else takes the flagged classes. -/
theorem Flagged.head?_toList_eq_filter {autoload : Bool} {classes : List Class}
    (h : Flagged autoload classes) :
    (if autoload then classes.head?.toList else []) = classes.filter (·.autoload) := by
  obtain ⟨own, inner, rfl, hown, hinner⟩ := h
  have hnone : inner.filter (·.autoload) = [] :=
    List.filter_eq_nil_iff.mpr fun k hk ↦ by simp [hinner k hk]
  cases autoload <;> simp [hown, hnone]

namespace Reader

/-! ### Opening scripts and taking them in -/

/-- A source as a script, if it can be read. -/
def opened? (grammar : String → SyntaxTree) (s : ProjectSource) : Option ScriptSource :=
  s.text.map fun text ↦ ⟨s.path, text, grammar text⟩

/-- Opening keeps the sources that can be read, in order, and counts the others. -/
theorem openScripts_eq (r : Reader) (sources : List ProjectSource) :
    r.openScripts sources = (sources.filterMap (opened? r.grammar),
      { r with skipped := r.skipped + sources.countP fun s ↦ (opened? r.grammar s).isNone }) := by
  induction sources generalizing r with
  | nil => rfl
  | cons s rest ih =>
    rw [openScripts]
    cases htext : s.text with
    | none => simp [ih, opened?, htext, Nat.add_assoc, Nat.add_comm 1]
    | some text => simp [ih, opened?, htext]

/-- What a script gives when it is read in its setting. -/
def given? (setting : String → Setting) (s : ScriptSource) : Option Parsed :=
  (parseTree s.tree s.text (setting s.path)).toOption

theorem given?_eq_some_iff {setting : String → Setting} {s : ScriptSource} {p : Parsed} :
    given? setting s = some p ↔ parseTree s.tree s.text (setting s.path) = .ok p := by
  rw [given?]
  cases parseTree s.tree s.text (setting s.path) <;> simp [Except.toOption]

/-- A harvest with what further scripts give. -/
def gather (h : Harvest) (given : List Parsed) : Harvest where
  classes := h.classes ++ given.flatMap (·.classes)
  autoloads := h.autoloads ++ (given.flatMap (·.classes)).filter (·.autoload)
  signals := h.signals ++ given.flatMap (·.signals)

@[simp]
theorem gather_nil (h : Harvest) : gather h [] = h := by
  simp [gather]

@[simp]
theorem gather_gather (h : Harvest) (given more : List Parsed) :
    gather (gather h given) more = gather h (given ++ more) := by
  simp [gather]

/-- Taking in a script. Its setting says whether it is loaded as a singleton, so that its own class
is listed with the autoloads exactly when it is flagged as one. -/
theorem takeScript_eq {autoloads : Keyed String} {setting : String → Setting}
    (hsetting : ∀ path, (setting path).autoloadName = autoloads.get? path)
    (r : Reader) (h : Harvest) (s : ScriptSource) :
    takeScript autoloads setting (r, h) s =
      match given? setting s with
      | none => ({ r with skipped := r.skipped + 1 }, h)
      | some p => ({ r with parsed := r.parsed + 1 }, gather h [p]) := by
  rw [takeScript, given?]
  cases hparsed : parseTree s.tree s.text (setting s.path) with
  | error e => rfl
  | ok p =>
    have hflagged : Flagged (autoloads.get? s.path).isSome p.classes :=
      hsetting s.path ▸ flagged_of_parseTree hparsed
    simp [Except.toOption, gather, hflagged.head?_toList_eq_filter]

/-- Taking in scripts one after the other. -/
theorem foldl_takeScript {autoloads : Keyed String} {setting : String → Setting}
    (hsetting : ∀ path, (setting path).autoloadName = autoloads.get? path)
    (scripts : List ScriptSource) (r : Reader) (h : Harvest) :
    scripts.foldl (takeScript autoloads setting) (r, h) =
      ({ r with
          parsed := r.parsed + (scripts.filterMap (given? setting)).length
          skipped := r.skipped + scripts.countP fun s ↦ (given? setting s).isNone },
        gather h (scripts.filterMap (given? setting))) := by
  induction scripts generalizing r h with
  | nil => simp
  | cons s rest ih =>
    rw [List.foldl_cons, takeScript_eq hsetting]
    cases hgiven : given? setting s with
    | none => simp [ih, hgiven, Nat.add_assoc, Nat.add_comm 1]
    | some p => simp [ih, hgiven, Nat.add_assoc, Nat.add_comm 1]

theorem length_filterMap_add_countP_isNone {α β : Type} (f : α → Option β) (xs : List α) :
    (xs.filterMap f).length + xs.countP (fun x ↦ (f x).isNone) = xs.length := by
  rw [List.length_filterMap_eq_countP, List.length_eq_countP_add_countP fun x ↦ (f x).isSome]
  simp only [Bool.not_eq_true, Bool.decide_eq_false, Option.not_isSome]

/-! ### What the scripts of a project give -/

variable (r : Reader) (files : FileTree)

/-- The scripts of a project that can be read. -/
def scripts : List ScriptSource :=
  (filesWith ".gd" files).filterMap (opened? r.grammar)

/-- What a source gives to its project, if it can be read and follows the grammar. It is read
against all scripts that can be read, whether they follow the grammar or not. -/
def contribution? (s : ProjectSource) : Option Parsed :=
  (opened? r.grammar s).bind
    (given? (settingFor (projectFileOf files).autoloads (r.scripts files)))

/-- What the sources of a project give, in the order of their paths. -/
def contributions : List Parsed :=
  (filesWith ".gd" files).filterMap (r.contribution? files)

/-- The class that a source itself is. -/
def ownClass? (s : ProjectSource) : Option Class :=
  (r.contribution? files s).bind (·.classes.head?)

theorem filterMap_given?_scripts :
    (r.scripts files).filterMap
        (given? (settingFor (projectFileOf files).autoloads (r.scripts files))) =
      r.contributions files :=
  List.filterMap_filterMap ..

/-- The own class of a source is flagged when the source is listed, its inner classes never. -/
theorem flagged_of_contribution? {s : ProjectSource} {p : Parsed}
    (h : r.contribution? files s = some p) : Flagged (decide (Listed files s.path)) p.classes := by
  obtain ⟨_, hopened, hgiven⟩ := Option.bind_eq_some_iff.mp h
  obtain ⟨text, -, rfl⟩ := Option.map_eq_some_iff.mp hopened
  have hflagged := flagged_of_parseTree (given?_eq_some_iff.mp hgiven)
  rw [settingFor_autoloadName] at hflagged
  rw [decide_listed]
  exact hflagged

/-- The flagged classes are, one for one, the own classes of the sources that are listed. -/
theorem map_some_filter_autoload (sources : List ProjectSource) :
    (((sources.filterMap (r.contribution? files)).flatMap (·.classes)).filter (·.autoload)).map
        some =
      (sources.filter fun s ↦ Listed files s.path ∧ (r.contribution? files s).isSome).map
        (r.ownClass? files) := by
  induction sources with
  | nil => rfl
  | cons s rest ih =>
    cases hs : r.contribution? files s with
    | none => simpa [hs] using ih
    | some p =>
      have hflagged := r.flagged_of_contribution? files hs
      rw [List.filterMap_cons_some hs, List.flatMap_cons, List.filter_append, List.map_append, ih,
        ← hflagged.head?_toList_eq_filter]
      obtain ⟨own, inner, hclasses, -⟩ := hflagged
      by_cases hlisted : Listed files s.path
      · simp [hlisted, hs, hclasses, ownClass?]
      · simp [hlisted]

/-! ### A whole reading -/

/-- The project of what the scripts give and of some scenes. -/
def assembled (scenes : List Scene) : Project where
  classes := (r.contributions files).flatMap (·.classes)
  scenes := scenes
  autoloads := ((r.contributions files).flatMap (·.classes)).filter (·.autoload)
  signals := (r.contributions files).flatMap (·.signals)
  name := (projectFileOf files).projectName r.directory

/-- A reading gives the assembled project, unless the scenes cannot be read, and the numbers of
scripts that gave something and of those that did not. -/
theorem read_eq :
    r.read files = ((scenesOf files).map (r.assembled files),
      { r with
        parsed := (r.contributions files).length
        skipped := (filesWith ".gd" files).countP fun s ↦ (r.contribution? files s).isNone }) := by
  have hscripts : (filesWith ".gd" files).filterMap (opened? r.grammar) = r.scripts files := rfl
  -- A source is skipped when it is opened or when it is taken in; either way it gives nothing.
  have hopened := length_filterMap_add_countP_isNone (opened? r.grammar) (filesWith ".gd" files)
  have htaken := length_filterMap_add_countP_isNone
    (given? (settingFor (projectFileOf files).autoloads (r.scripts files))) (r.scripts files)
  have hgiven := length_filterMap_add_countP_isNone (r.contribution? files) (filesWith ".gd" files)
  rw [hscripts] at hopened
  rw [filterMap_given?_scripts] at htaken
  rw [← contributions] at hgiven
  rw [read, openScripts_eq]
  dsimp only
  rw [foldl_takeScript (settingFor_autoloadName _ _), hscripts, filterMap_given?_scripts]
  refine Prod.ext ?_ ?_
  · cases scenesOf files with
    | error e => rfl
    | ok scenes => exact Project.make_eq_ok (fun a ha ↦ (List.mem_filter.mp ha).symm) scenes _ _
  · simp only [mk.injEq, true_and]
    omega

/-- Of a reader, readings change nothing but the counts. -/
theorem foldl_read_eq (others : List FileTree) :
    ∃ parsed skipped, others.foldl (fun r f ↦ (r.read f).2) r = { r with parsed, skipped } := by
  induction others generalizing r with
  | nil => exact ⟨r.parsed, r.skipped, rfl⟩
  | cons f others ih =>
    rw [List.foldl_cons, read_eq]
    exact ih _

/-- What a reading gives, for every grammar, every directory and every reader, whatever it has read
before. -/
theorem reading_consistent :
    -- The scripts of the project are gone through in the order of their paths.
    (∃ entries : FileTree, entries.Perm (files.filter (belongs ".gd")) ∧
      entries.Pairwise (fun a b ↦ a.names ≤ b.names) ∧
      filesWith ".gd" files = entries.map sourceOf) ∧
    -- Each is counted once.
    (r.read files).2.parsed = (r.contributions files).length ∧
    (r.read files).2.parsed + (r.read files).2.skipped = (filesWith ".gd" files).length ∧
    -- Nothing but the name of a scene makes a reading fail, no check of autoloads in particular.
    ((∃ p, (r.read files).1 = .ok p) ↔ ∀ s ∈ filesWith ".tscn" files,
      s.text.isSome → Text.trimmed (Path.ofText s.path).stem ≠ "") ∧
    (∀ p, (r.read files).1 = .ok p →
      p.classes = (r.contributions files).flatMap (·.classes) ∧
      p.signals = (r.contributions files).flatMap (·.signals) ∧
      p.autoloads = p.classes.filter (·.autoload) ∧
      p.autoloads.map some = ((filesWith ".gd" files).filter fun s ↦
        Listed files s.path ∧ (r.contribution? files s).isSome).map (r.ownClass? files)) ∧
    (∀ s q, r.contribution? files s = some q → Flagged (decide (Listed files s.path)) q.classes) ∧
    -- The same files give the same project and counts again, whatever is read in between.
    ∀ others : List FileTree,
      (others.foldl (fun r f ↦ (r.read f).2) r).read files = r.read files := by
  refine ⟨filesWith_ordered ".gd" files, ?_, ?_, ?_, ?_,
    fun s q ↦ r.flagged_of_contribution? files, fun others ↦ ?_⟩
  · rw [read_eq]
  · rw [read_eq]
    exact length_filterMap_add_countP_isNone _ _
  · rw [read_eq, ← exists_scenesOf_iff]
    cases scenesOf files <;> simp [Except.map]
  · intro p hp
    rw [read_eq] at hp
    cases hscenes : scenesOf files with
    | error e => simp [hscenes, Except.map] at hp
    | ok scenes =>
      simp only [hscenes, Except.map, Except.ok.injEq] at hp
      subst hp
      exact ⟨rfl, rfl, rfl, r.map_some_filter_autoload files _⟩
  · obtain ⟨parsed, skipped, hothers⟩ := r.foldl_read_eq others
    rw [hothers]
    rfl

end Reader

end Script

end CodeSmells
