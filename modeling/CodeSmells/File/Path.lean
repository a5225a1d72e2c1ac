import CodeSmells.Text.Word

/-!
Paths as lists of names. Empty names and single dots between slashes do not count, so a path has
one written form. The last name of a path splits into a stem and a suffix at its last dot, unless
that dot is its first or its last character.
-/

set_option autoImplicit false

namespace CodeSmells

/-- A path: what stands before its first name, and its names. -/
structure Path where
  root : String
  names : List String
deriving DecidableEq, Inhabited

namespace Path

/-- The root of a written path. Two slashes are a root of their own; any other number is one. -/
def rootOf (cs : List Char) : String :=
  match (cs.takeWhile (· == '/')).length with
  | 0 => ""
  | 2 => "//"
  | _ => "/"

/-- The names between the slashes of a written path. -/
def namesOf (cs : List Char) : List String :=
  ((cs.splitOnP (· == '/')).map String.ofList).filter fun s => s != "" && s != "."

/-- A path from its written form. -/
def ofText (s : String) : Path :=
  ⟨rootOf s.toList, namesOf s.toList⟩

/-- The written form of a path; a path without root and names is written as a dot. -/
def text (p : Path) : String :=
  let s := p.root ++ String.intercalate "/" p.names
  if s == "" then "." else s

/-- The path below a directory; a path with a root stays where it is. -/
def below (directory p : Path) : Path :=
  if p.root == "" then ⟨directory.root, directory.names ++ p.names⟩ else p

/-- The last name. -/
def name (p : Path) : String :=
  p.names.getLast?.getD ""

/-- The path of the directory that holds the last name. -/
def parent (p : Path) : Path :=
  ⟨p.root, p.names.dropLast⟩

/-- Splits a name into stem and suffix. -/
def splitName (cs : List Char) : List Char × List Char :=
  let ending := cs.reverse.takeWhile (· != '.')
  let front := cs.reverse.drop (ending.length + 1)
  if cs.contains '.' && !ending.isEmpty && !front.isEmpty then
    (front.reverse, '.' :: ending.reverse)
  else (cs, [])

/-- The last name without its suffix. -/
def stem (p : Path) : String :=
  String.ofList (splitName p.name.toList).1

/-- The suffix of the last name, its dot included; empty when there is none. -/
def suffix (p : Path) : String :=
  String.ofList (splitName p.name.toList).2

end Path

end CodeSmells
