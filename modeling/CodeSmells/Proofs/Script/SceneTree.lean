import CodeSmells.Proofs.Script.Reading
import Mathlib.Data.List.Induction

/-!
# The node tree of a scene and the script of its root

A scene is read line by line, and five things are kept: the scripts that are declared as resources,
the root, the other nodes, the script of the root and whether the current line stands in the section
of the root. Each of them is told here from the lines read so far, without the run: the root is the
first node without a parent and the others are all other nodes (`run_nodes`), and a line stands in
the section of the root when no header comes between (`inRoot_run_iff`). So the script is the one
that the last line to set a script in that section names, among those declared above that line
(`script_run_eq_some_iff`); with the next node the section is over, and nothing below changes the
script any more (`script_run_append`).

`scene_tree_read` puts this together for the text of a scene. A header of a node is counted wherever
it stands, with or without a name and with or without a parent, and resources may be declared
between a header and its properties.
-/

set_option autoImplicit false
set_option relaxedAutoImplicit false

namespace CodeSmells.Scene

/-! ### Lines of a scene -/

namespace SceneLine

/-- The attributes of the header of a node. -/
def node? : SceneLine → Option Attributes
  | .node as => some as
  | _ => none

/-- The script that a line declares, its identifier and its path. -/
def declared? : SceneLine → Option (String × String)
  | .resource as => scriptResource? as
  | _ => none

/-- The line ends the section of a node. Resources do not. -/
def endsSection : SceneLine → Bool
  | .node _ | .otherHeader => true
  | _ => false

end SceneLine

/-- The name in a header, empty if there is none. -/
def nameOf (as : Attributes) : String :=
  (attributeOf? as "name").getD ""

/-- The header has no attribute for a parent. -/
def isParentless (as : Attributes) : Bool :=
  (attributeOf? as "parent").isNone

/-- The headers of the nodes. -/
def nodes (ls : List SceneLine) : List Attributes :=
  ls.filterMap SceneLine.node?

/-- The scripts that are declared as resources. -/
def declared (ls : List SceneLine) : List (String × String) :=
  ls.filterMap SceneLine.declared?

/-- What has been read after some lines. -/
def run (ls : List SceneLine) : Progress :=
  ls.foldl Progress.step {}

section Concat

variable (ls : List SceneLine) (line : SceneLine)

theorem run_concat : run (ls ++ [line]) = (run ls).step line :=
  List.foldl_concat ..

theorem nodes_concat : nodes (ls ++ [line]) = nodes ls ++ line.node?.toList := by
  rw [nodes, List.filterMap_append]
  cases line <;> rfl

theorem declared_concat : declared (ls ++ [line]) = declared ls ++ line.declared?.toList := by
  rw [declared, declared, List.filterMap_append]
  cases h : line.declared? <;> simp [h]

end Concat

/-! ### Nodes -/

theorem step_node (s : Progress) (as : Attributes) :
    s.step (.node as) =
      if isParentless as && s.root.isNone then { s with root := some (nameOf as), inRoot := true }
      else { s with children := s.children ++ [nameOf as], inRoot := false } :=
  rfl

/-- A line that is no node leaves the nodes as they are. -/
theorem step_nodes (s : Progress) {line : SceneLine} (h : line.node? = none) :
    (s.step line).root = s.root ∧ (s.step line).children = s.children := by
  cases line with
  | node as => cases h
  | script id =>
    rw [Progress.step]
    split <;> exact ⟨rfl, rfl⟩
  | resource | otherHeader | other => exact ⟨rfl, rfl⟩

/-- The root is the first node without a parent, and the other nodes are all others. -/
theorem run_nodes (ls : List SceneLine) :
    (run ls).root = ((nodes ls).find? isParentless).map nameOf ∧
    (run ls).children = ((nodes ls).eraseP isParentless).map nameOf := by
  induction ls using List.reverseRecOn with
  | nil => exact ⟨rfl, rfl⟩
  | append_singleton ls line ih =>
    obtain ⟨hroot, hchildren⟩ := ih
    rw [run_concat, nodes_concat]
    cases hnode : line.node? with
    | none =>
      obtain ⟨hsame, hsame'⟩ := step_nodes (run ls) hnode
      rw [hsame, hsame', Option.toList_none, List.append_nil]
      exact ⟨hroot, hchildren⟩
    | some as =>
      obtain rfl : line = .node as := by
        cases line <;> cases hnode
        rfl
      rw [step_node, Option.toList_some, List.find?_append, List.eraseP_append, hroot, hchildren]
      -- Whether the node becomes the root turns on those before it, and on its own parent only then.
      cases hfound : (nodes ls).find? isParentless with
      | some top =>
        have hany : (nodes ls).any isParentless = true := by
          rw [← List.isSome_find?, hfound]
          rfl
        simp [hany]
      | none =>
        have hall : ∀ other ∈ nodes ls, ¬isParentless other = true := List.find?_eq_none.mp hfound
        have hany : (nodes ls).any isParentless = false := List.any_eq_false.mpr hall
        cases hparent : isParentless as
        · simp [hany, hparent, List.eraseP_of_forall_not hall]
        · simp [hany, hparent, List.eraseP_of_forall_not hall]

/-! ### The section of the root -/

/-- The lines end in the section of the root: they have a node without a parent, the first one, and
no header that ends its section below. -/
def InRoot (ls : List SceneLine) : Prop :=
  ∃ (above : List SceneLine) (as : Attributes) (below : List SceneLine),
    ls = above ++ .node as :: below ∧ isParentless as = true ∧
    (∀ other ∈ nodes above, isParentless other = false) ∧
    ∀ line ∈ below, line.endsSection = false

theorem inRoot_concat_iff (ls : List SceneLine) (line : SceneLine) :
    InRoot (ls ++ [line]) ↔
      (∃ as, line = .node as ∧ isParentless as = true ∧
        ∀ other ∈ nodes ls, isParentless other = false) ∨
      (line.endsSection = false ∧ InRoot ls) := by
  constructor
  · rintro ⟨above, as, below, hsplit, htop, habove, hbelow⟩
    cases below using List.reverseRecOn with
    | nil =>
      obtain ⟨rfl, hline⟩ := List.append_inj' hsplit rfl
      cases hline
      exact Or.inl ⟨as, rfl, htop, habove⟩
    | append_singleton below last =>
      rw [← List.cons_append, ← List.append_assoc] at hsplit
      obtain ⟨rfl, hline⟩ := List.append_inj' hsplit rfl
      cases hline
      rw [List.forall_mem_append, List.forall_mem_singleton] at hbelow
      exact Or.inr ⟨hbelow.2, above, as, below, rfl, htop, habove, hbelow.1⟩
  · rintro (⟨as, rfl, htop, habove⟩ | ⟨hline, above, as, below, rfl, htop, habove, hbelow⟩)
    · exact ⟨ls, as, [], rfl, htop, habove, nofun⟩
    · refine ⟨above, as, below ++ [line], by simp, htop, habove, ?_⟩
      rw [List.forall_mem_append, List.forall_mem_singleton]
      exact ⟨hbelow, hline⟩

theorem root_run_eq_none_iff (ls : List SceneLine) :
    (run ls).root = none ↔ ∀ other ∈ nodes ls, isParentless other = false := by
  simp only [(run_nodes ls).1, Option.map_eq_none_iff, List.find?_eq_none, Bool.not_eq_true]

theorem inRoot_run_iff (ls : List SceneLine) : (run ls).inRoot = true ↔ InRoot ls := by
  induction ls using List.reverseRecOn with
  | nil =>
    refine ⟨nofun, ?_⟩
    rintro ⟨above, as, below, hsplit, -⟩
    exact absurd hsplit.symm (List.append_ne_nil_of_right_ne_nil _ (List.cons_ne_nil _ _))
  | append_singleton ls line ih =>
    rw [run_concat, inRoot_concat_iff, ← ih]
    cases line with
    | node as =>
      rw [step_node, ← root_run_eq_none_iff]
      cases hparent : isParentless as <;> cases (run ls).root <;>
        simp [SceneLine.endsSection, hparent]
    | script id =>
      rw [Progress.step]
      split <;> simp [SceneLine.endsSection]
    | resource | otherHeader | other => simp [Progress.step, SceneLine.endsSection]

/-! ### The script -/

/-- The lines above set a script: they are followed by the line that sets it, and end in the section
of the root. -/
def SetsBelow (ls before : List SceneLine) (id : String) : Prop :=
  before ++ [.script id] <+: ls ∧ InRoot before

/-- Of the lines that set a script in the section of the root the last one. -/
def SetsLast (ls before : List SceneLine) (id : String) : Prop :=
  SetsBelow ls before id ∧ ∀ other id', SetsBelow ls other id' → other <+: before

theorem SetsLast.unique {ls before before' : List SceneLine} {id id' : String}
    (h : SetsLast ls before id) (h' : SetsLast ls before' id') : before = before' ∧ id = id' := by
  obtain rfl : before = before' :=
    (h'.2 before id h.1).eq_of_length_le (h.2 before' id' h'.1).length_le
  cases eq_of_concat_prefix h.1.1 h'.1.1
  exact ⟨rfl, rfl⟩

/-- The path of the script that was declared last with an identifier. -/
def DeclaredLast (before : List SceneLine) (id path : String) : Prop :=
  ∃ earlier later, declared before = earlier ++ (id, path) :: later ∧ ∀ e ∈ later, e.1 ≠ id

theorem scripts_run (ls : List SceneLine) : (run ls).scripts = (declared ls).reverse := by
  induction ls using List.reverseRecOn with
  | nil => rfl
  | append_singleton ls line ih =>
    rw [run_concat, declared_concat, List.reverse_append, ← ih]
    cases line with
    | resource as =>
      rw [Progress.step, SceneLine.declared?]
      cases scriptResource? as <;> rfl
    | node as =>
      rw [step_node]
      split <;> rfl
    | script id =>
      rw [Progress.step]
      split <;> rfl
    | otherHeader | other => rfl

theorem find?_scripts_run (before : List SceneLine) (id path : String) :
    (((run before).scripts.find? fun e ↦ e.1 == id).map (·.2)) = some path ↔
      DeclaredLast before id path := by
  simp only [scripts_run, Option.map_eq_some_iff, List.find?_eq_some_iff_append, beq_iff_eq,
    List.reverse_eq_iff, List.reverse_append, List.reverse_cons, List.append_assoc]
  constructor
  · rintro ⟨⟨id', path'⟩, ⟨rfl, later, earlier, hsplit, hlater⟩, rfl⟩
    exact ⟨earlier.reverse, later.reverse, hsplit, by simpa using hlater⟩
  · rintro ⟨earlier, later, hsplit, hlater⟩
    refine ⟨(id, path), ⟨rfl, later.reverse, earlier.reverse, ?_, by simpa using hlater⟩, rfl⟩
    simpa using hsplit

/-- A line that does not set a script in the section of the root leaves the script as it is. -/
theorem step_script (s : Progress) {line : SceneLine}
    (h : s.inRoot = true → ∀ id, line ≠ .script id) : (s.step line).script = s.script := by
  cases line with
  | node as =>
    rw [step_node]
    split <;> rfl
  | script id =>
    rw [Progress.step, if_neg fun hin ↦ h hin id rfl]
  | resource | otherHeader | other => rfl

theorem setsBelow_concat_iff {ls before : List SceneLine} {line : SceneLine} {id : String} :
    SetsBelow (ls ++ [line]) before id ↔
      (before = ls ∧ line = .script id ∧ InRoot before) ∨ SetsBelow ls before id := by
  rw [SetsBelow, SetsBelow, concat_prefix_concat_iff, or_and_right, and_assoc, eq_comm (a := line)]

theorem setsLast_concat {ls : List SceneLine} (hin : InRoot ls) (id : String) :
    SetsLast (ls ++ [.script id]) ls id := by
  refine ⟨⟨List.prefix_rfl, hin⟩, fun other id' hother ↦ ?_⟩
  rcases setsBelow_concat_iff.mp hother with ⟨rfl, -⟩ | hother
  · exact List.prefix_rfl
  · exact (List.prefix_append _ _).trans hother.1

/-- The script is the one named by the last line that sets one in the section of the root. -/
theorem script_run_eq_some_iff (ls : List SceneLine) (path : String) :
    (run ls).script = some path ↔
      ∃ before id, SetsLast ls before id ∧ DeclaredLast before id path := by
  induction ls using List.reverseRecOn with
  | nil =>
    refine ⟨nofun, ?_⟩
    rintro ⟨before, id, ⟨⟨hbefore, -⟩, -⟩, -⟩
    exact (not_concat_prefix_nil hbefore).elim
  | append_singleton ls line ih =>
    rw [run_concat]
    -- Either the new line sets the script, as the last one to do so, or the last one stays.
    by_cases hsets : (run ls).inRoot = true ∧ ∃ id, line = .script id
    · obtain ⟨hin, id, rfl⟩ := hsets
      have hlast := setsLast_concat ((inRoot_run_iff ls).mp hin) id
      rw [Progress.step, if_pos hin, find?_scripts_run]
      refine ⟨fun hdeclared ↦ ⟨ls, id, hlast, hdeclared⟩, ?_⟩
      rintro ⟨before, id', hlast', hdeclared⟩
      obtain ⟨rfl, rfl⟩ := hlast.unique hlast'
      exact hdeclared
    · have hsame : ∀ before id, SetsBelow (ls ++ [line]) before id ↔ SetsBelow ls before id := by
        intro before id
        rw [setsBelow_concat_iff, or_iff_right]
        rintro ⟨rfl, rfl, hin⟩
        exact hsets ⟨(inRoot_run_iff _).mpr hin, id, rfl⟩
      rw [step_script _ fun hin id hline ↦ hsets ⟨hin, id, hline⟩, ih]
      simp only [SetsLast, hsame]

/-- With a root, and outside its section, the script does not change any more. -/
theorem script_foldl_step {s : Progress} (hroot : s.root.isSome = true) (hin : s.inRoot = false)
    (ls : List SceneLine) : (ls.foldl Progress.step s).script = s.script := by
  induction ls generalizing s with
  | nil => rfl
  | cons line ls ih =>
    have hsettled : (s.step line).root.isSome = true ∧ (s.step line).inRoot = false := by
      cases line with
      | node as => simp [step_node, Option.isNone_eq_false_iff.mpr hroot, hroot]
      | script id => simp [Progress.step, hin, hroot]
      | resource | otherHeader | other => simp [Progress.step, hin, hroot]
    rw [List.foldl_cons, ih hsettled.1 hsettled.2]
    exact step_script s fun htrue ↦ absurd (hin.symm.trans htrue) Bool.false_ne_true

/-- From the node below the section of the root on, nothing changes the script. -/
theorem script_run_append {front tail : List SceneLine}
    (hroot : ∃ top ∈ nodes front, isParentless top = true)
    (htail : ∀ line ∈ tail.head?, ∃ as, line = .node as) :
    (run (front ++ tail)).script = (run front).script := by
  cases tail with
  | nil => rw [List.append_nil]
  | cons line tail =>
    obtain ⟨as, rfl⟩ := htail line rfl
    have hfound : (run front).root.isSome = true := by
      rw [(run_nodes front).1, Option.isSome_map, List.find?_isSome]
      exact hroot
    have hstep : (run front).step (.node as) = { run front with
        children := (run front).children ++ [nameOf as], inRoot := false } := by
      rw [step_node, Option.isNone_eq_false_iff.mpr hfound, Bool.and_false]
      rfl
    rw [run, List.foldl_append, ← run, List.foldl_cons, hstep]
    refine script_foldl_step ?_ rfl tail
    exact hfound

/-! ### Scenes from their text -/

/-- The headers of nodes in a text, line by line. -/
def nodeHeaders (source : String) : List Attributes :=
  (Text.lines source.toList).filterMap fun l ↦ header? "node" (Text.trim l)

theorem header?_node_of_resource {line : List Char} {as : Attributes}
    (h : header? "ext_resource" line = some as) : header? "node" line = none := by
  obtain ⟨rest, hrest, -⟩ := Option.bind_eq_some_iff.mp h
  rw [Text.after?_eq_some_iff.mp hrest]
  rfl

theorem node?_ofText (line : List Char) : (SceneLine.ofText line).node? = header? "node" line := by
  rw [SceneLine.ofText]
  split
  · next as _ hresource => rw [header?_node_of_resource hresource]; rfl
  · next as _ hnode => rw [hnode]; rfl
  · next hnode =>
    rw [hnode]
    split
    · rfl
    · split <;> rfl

theorem nodes_sceneLines (source : String) : nodes (sceneLines source) = nodeHeaders source := by
  rw [nodes, sceneLines, List.filterMap_map, nodeHeaders]
  exact List.filterMap_congr fun l _ ↦ node?_ofText _

theorem ofText_eq_ok {source path : String} {s : Scene} (h : ofText source path = .ok s) :
    s.rootNode = .optText (run (sceneLines source)).root ∧
    s.childNodes = (run (sceneLines source)).children.map .text ∧
    s.scriptPath = .optText (run (sceneLines source)).script := by
  obtain ⟨name, -, hs⟩ := bind_eq_ok_iff.mp h
  cases hs
  exact ⟨rfl, rfl, rfl⟩

/-- What is read of the node tree of a scene, whatever its text. It can be read when its file has a
name. Then the root, if there is one, and the other nodes are together as many as there are headers
of nodes; the root has the name of the first header without a parent, and the other nodes have those
of all other headers, in order. A script, if there is one, is set by the last line that sets one in
the section of the root, and it is the path of the script that was declared last above that line
with the identifier that stands there. Whatever is read from a node below the root on, the script
stays. -/
theorem scene_tree_read (source path : String) :
    ((∃ s, ofText source path = .ok s) ↔ Text.trimmed (Path.ofText path).stem ≠ "") ∧
    ∀ s, ofText source path = .ok s →
      ∃ (root : Option String) (children : List String) (script : Option String),
        s.rootNode = .optText root ∧ s.childNodes = children.map .text ∧
        s.scriptPath = .optText script ∧
        children.length + (if root.isSome then 1 else 0) = (nodeHeaders source).length ∧
        root = ((nodeHeaders source).find? isParentless).map nameOf ∧
        children = ((nodeHeaders source).eraseP isParentless).map nameOf ∧
        (∀ p, script = some p ↔ ∃ before id,
          SetsLast (sceneLines source) before id ∧ DeclaredLast before id p) ∧
        ∀ (front tail tail' : List SceneLine) (source' path' : String) (s' : Scene),
          sceneLines source = front ++ tail → sceneLines source' = front ++ tail' →
          (∃ top ∈ nodes front, isParentless top = true) →
          (∀ line ∈ tail.head?, ∃ as, line = .node as) →
          (∀ line ∈ tail'.head?, ∃ as, line = .node as) →
          ofText source' path' = .ok s' → s'.scriptPath = s.scriptPath := by
  refine ⟨exists_ofText_iff source path, fun s hs ↦ ?_⟩
  obtain ⟨hroot, hchildren, hscript⟩ := ofText_eq_ok hs
  obtain ⟨hfound, hothers⟩ := run_nodes (sceneLines source)
  rw [nodes_sceneLines] at hfound hothers
  refine ⟨_, _, _, hroot, hchildren, hscript, ?_, hfound, hothers,
    script_run_eq_some_iff (sceneLines source), ?_⟩
  · rw [hfound, hothers, List.length_map, Option.isSome_map, List.isSome_find?, List.length_eraseP]
    cases hany : (nodeHeaders source).any isParentless with
    | true =>
      obtain ⟨top, htop, -⟩ := List.any_eq_true.mp hany
      exact Nat.succ_pred_eq_of_pos (List.length_pos_of_mem htop)
    | false => rfl
  · intro front tail tail' source' path' s' hsource hsource' htop htail htail' hs'
    obtain ⟨-, -, hscript'⟩ := ofText_eq_ok hs'
    rw [hscript, hscript', hsource, hsource', script_run_append htop htail,
      script_run_append htop htail']

/-- A scene with a script on its only node. -/
def menu : String :=
  "[ext_resource path=\"res://menu.gd\" type=\"Script\" id=1]\n" ++
  "[node name=\"Menu\"]\nscript = ExtResource( 1 )\n"

/-- A further node without a parent, on which a script is set as well. -/
def button : String :=
  "[node name=\"Quit\"]\nscript = ExtResource( 2 )\n"

/-- The lines of the scene that set the script of its root. -/
def menuTop : List SceneLine :=
  [.resource [("path", "res://menu.gd"), ("type", "Script"), ("id", "1")], .node [("name", "Menu")]]

/-- The further node is read as a child though it has no parent, and the script stays that of the
menu. -/
theorem scene_tree_read_menu :
    ∃ s s', ofText menu "menu.tscn" = .ok s ∧ ofText (menu ++ button) "menu.tscn" = .ok s' ∧
      s'.rootNode = .text "Menu" ∧ s'.childNodes = [.text "Quit"] ∧
      s'.scriptPath = s.scriptPath ∧ s.scriptPath = .text "menu.gd" := by
  obtain ⟨hexists, hread⟩ := scene_tree_read menu "menu.tscn"
  obtain ⟨hexists', hread'⟩ := scene_tree_read (menu ++ button) "menu.tscn"
  have hstem : Text.trimmed (Path.ofText "menu.tscn").stem ≠ "" := by decide +kernel
  obtain ⟨s, hs⟩ := hexists.mpr hstem
  obtain ⟨s', hs'⟩ := hexists'.mpr hstem
  obtain ⟨-, -, script, -, -, hscript, -, -, -, hset, hstays⟩ := hread s hs
  obtain ⟨root, children, -, hroot, hchildren, -, -, hfound, hothers, -, -⟩ := hread' s' hs'
  have hmenu : sceneLines menu = menuTop ++ [.script "1"] := by decide +kernel
  have hbutton : sceneLines (menu ++ button) =
      (menuTop ++ [.script "1"]) ++ [.node [("name", "Quit")], .script "2"] := by
    decide +kernel
  rw [← nodes_sceneLines, hbutton] at hfound hothers
  have hin : InRoot menuTop := (inRoot_run_iff _).mp (by decide +kernel)
  have hdeclared : DeclaredLast menuTop "1" "menu.gd" := ⟨[], [], by decide +kernel, nofun⟩
  have hset' : script = some "menu.gd" :=
    (hset _).mpr ⟨_, _, hmenu.symm ▸ setsLast_concat hin "1", hdeclared⟩
  refine ⟨s, s', hs, hs', ?_, ?_, ?_, ?_⟩
  · rw [hroot, hfound]
    rfl
  · rw [hchildren, hothers]
    rfl
  · refine hstays _ [] _ _ _ s' (hmenu.trans (List.append_nil _).symm) hbutton ?_ nofun ?_ hs'
    · decide +kernel
    · rintro line ⟨⟩
      exact ⟨_, rfl⟩
  · rw [hscript, hset']
    rfl

end CodeSmells.Scene
