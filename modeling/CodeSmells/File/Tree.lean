import CodeSmells.File.Path
import CodeSmells.Text.Lines
import CodeSmells.Text.Quoted

/-!
Files and directories below a root directory. A tree lists what it holds by the names that lead
there; the directories on the way to an entry are there as well. Files hold bytes, and reading one
as text can fail. A path is followed name by name, so that two dots lead out of a directory only
where there is one.
-/

set_option autoImplicit false

namespace CodeSmells

/-- What stands at a place of a file tree. -/
inductive Content where
  | directory
  | file (bytes : ByteArray)
deriving Inhabited

/-- The bytes of a text as the content of a file. -/
def Content.ofText (s : String) : Content :=
  .file s.toUTF8

/-- The text of a file, if it is one; any convention for line ends is read as line feeds. -/
def Content.text? : Content → Option String
  | directory => none
  | file bytes =>
    (String.fromUTF8? bytes).map fun s => String.ofList (Text.unifyNewlines s.toList)

/-- Why a file or directory cannot be read or written. -/
inductive FileError where
  | notFound (path : String)
  | notADirectory (path : String)
  | isADirectory (path : String)
  | alreadyThere (path : String)
  | nameTooLong (path : String)
deriving DecidableEq, Inhabited

/-- The wording of each reason. -/
def FileError.message : FileError → String
  | notFound path => "[Errno 2] No such file or directory: " ++ Text.quoted path
  | notADirectory path => "[Errno 20] Not a directory: " ++ Text.quoted path
  | isADirectory path => "[Errno 21] Is a directory: " ++ Text.quoted path
  | alreadyThere path => "[Errno 17] File exists: " ++ Text.quoted path
  | nameTooLong path => "[Errno 36] File name too long: " ++ Text.quoted path

/-- A file or directory and the names that lead to it. -/
structure FileEntry where
  names : List String
  content : Content
deriving Inhabited

/-- Whether one list of names comes before another, name by name. -/
def namesBefore : List String → List String → Bool
  | _, [] => false
  | [], _ :: _ => true
  | a :: as, b :: bs => if a == b then namesBefore as bs else a < b

/-- The entries below a root directory, at most one for each list of names. -/
abbrev FileTree := List FileEntry

/-- Where names lead: to an entry, to a free place in a directory, or nowhere, because a directory
on the way is missing, because a file stands in its place or because a name is too long. -/
inductive Trail where
  | found (names : List String) (content : Content)
  | free (names : List String)
  | missing
  | blocked
  | overlong
deriving Inhabited

/-- The greatest number of bytes in a name. -/
def nameLimit : Nat := 255

namespace FileTree

variable {tree : FileTree} {names front rest : List String} {content : Content}

/-- What stands at the given names. A directory is there also when only entries below it are. -/
def at? (tree : FileTree) (names : List String) : Option Content :=
  match tree.find? fun e => e.names == names with
  | some e => some e.content
  | none =>
    if names.isEmpty || tree.any fun e => names.isPrefixOf e.names then some .directory else none

/-- A file stands where an entry is one. -/
theorem at?_eq_file_iff {bytes : ByteArray} :
    tree.at? names = some (.file bytes) ↔
      ∃ e, tree.find? (fun e => e.names == names) = some e ∧ e.content = .file bytes := by
  rw [at?]
  split
  · next e he => simp [he]
  · next hnone =>
    rw [hnone]
    constructor
    · intro h
      split at h <;> cases h
    · rintro ⟨e, he, -⟩
      cases he

/-- Puts content at the given names, in place of what was there. -/
def put (names : List String) (content : Content) (tree : FileTree) : FileTree :=
  tree.filter (fun e => e.names != names) ++ [⟨names, content⟩]

/-- Removes what stands at the given names and below. -/
def erase (names : List String) (tree : FileTree) : FileTree :=
  tree.filter fun e => !names.isPrefixOf e.names

/-- The tree below the given names. -/
def below (tree : FileTree) (names : List String) : FileTree :=
  tree.filterMap fun e =>
    if names.isPrefixOf e.names && e.names.length > names.length then
      some { e with names := e.names.drop names.length }
    else none

/-- The entries in the order of their names. -/
def sorted (tree : FileTree) : FileTree :=
  tree.mergeSort fun a b => !namesBefore b.names a.names

/-- Follows names from the place whose names stand, reversed, in `front`. -/
def follow (tree : FileTree) (front : List String) : List String → Trail
  | [] =>
    match tree.at? front.reverse with
    | some content => .found front.reverse content
    | none => .missing
  | name :: rest =>
    match tree.at? front.reverse with
    | none => .missing
    | some (.file _) => .blocked
    | some .directory =>
      if name == ".." then follow tree (front.drop 1) rest
      else if nameLimit < name.utf8ByteSize then .overlong
      else if rest.isEmpty && (tree.at? (name :: front).reverse).isNone then
        .free (name :: front).reverse
      else follow tree (name :: front) rest

theorem at?_of_follow_nil (h : tree.follow front [] = .found names content) :
    names = front.reverse ∧ tree.at? names = some content := by
  rw [follow] at h
  split at h
  · next c hc =>
    cases h
    exact ⟨rfl, hc⟩
  · cases h

/-- Two dots lead out of a directory. -/
theorem follow_dots (h : tree.at? front.reverse = some .directory) (rest : List String) :
    tree.follow front (".." :: rest) = tree.follow (front.drop 1) rest := by
  rw [follow, h]
  rfl

/-- Another name leads on when names follow it or something is there. -/
theorem follow_name (h : tree.at? front.reverse = some .directory) {name : String}
    (hdots : name ≠ "..") (hshort : ¬ nameLimit < name.utf8ByteSize)
    (hthere : rest = [] → tree.at? (name :: front).reverse ≠ none) :
    tree.follow front (name :: rest) = tree.follow (name :: front) rest := by
  have hon : (rest.isEmpty && (tree.at? (name :: front).reverse).isNone) = false := by
    rw [Bool.eq_false_iff]
    intro hboth
    rw [Bool.and_eq_true, List.isEmpty_iff, Option.isNone_iff_eq_none] at hboth
    exact hthere hboth.1 hboth.2
  rw [follow, h]
  simp only [beq_eq_false_iff_ne.mpr hdots, hshort, hon, Bool.false_eq_true, ↓reduceIte]

/-- The files of a tree that are not in an earlier one or have changed since. -/
def changesSince (tree earlier : FileTree) : FileTree :=
  tree.filter fun e =>
    match e.content, earlier.at? e.names with
    | .directory, _ => false
    | .file now, some (.file before) => now != before
    | .file _, _ => true

end FileTree

/-- A file tree and the directory in it from which paths without a root start. -/
structure Workspace where
  directory : List String
  files : FileTree

namespace Workspace

/-- The workspace of a directory with some files in it. -/
def ofFiles (directory : List String) (files : FileTree) : Workspace :=
  ⟨directory, ⟨directory, .directory⟩ ::
    files.map fun e => { e with names := directory ++ e.names }⟩

variable (w : Workspace)

/-- The names of a path from the root directory. -/
def fullNames (p : Path) : List String :=
  (if p.root == "" then w.directory else []) ++ p.names

/-- Where a path leads. -/
def trail (p : Path) : Trail :=
  w.files.follow [] (w.fullNames p)

/-- What stands at a path. -/
def find? (p : Path) : Option Content :=
  match w.trail p with
  | .found _ content => some content
  | _ => none

/-- Makes a directory inside one that is there; one that is there itself stays. -/
def makeSingle (p : Path) : Except FileError Workspace :=
  match w.trail p with
  | .found _ .directory => .ok w
  | .found _ (.file _) => .error (.alreadyThere p.text)
  | .free names => .ok { w with files := w.files.put names .directory }
  | .missing => .error (.notFound p.text)
  | .blocked => .error (.notADirectory p.text)
  | .overlong => .error (.nameTooLong p.text)

/-- Makes the directory at a root and reversed names; those on the way are made where one of them is
missing. -/
def makeFrom (root : String) : List String → Except FileError Workspace
  | [] => .ok w
  | name :: front =>
    let p : Path := ⟨root, (name :: front).reverse⟩
    match w.makeSingle p with
    | .error (.notFound _) => do (← makeFrom root front).makeSingle p
    | outcome => outcome

/-- Makes a directory and those on the way to it. -/
def makeDirectory (p : Path) : Except FileError Workspace :=
  w.makeFrom p.root p.names.reverse

/-- Writes a text into a file. -/
def write (p : Path) (text : String) : Except FileError Workspace :=
  let store (names : List String) : Workspace :=
    { w with files := w.files.put names (.ofText text) }
  match w.trail p with
  | .found _ .directory => .error (.isADirectory p.text)
  | .found names (.file _) => .ok (store names)
  | .free names => .ok (store names)
  | .missing => .error (.notFound p.text)
  | .blocked => .error (.notADirectory p.text)
  | .overlong => .error (.nameTooLong p.text)

end Workspace

end CodeSmells
