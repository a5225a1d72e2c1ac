import CodeSmells.Smell.Detector
import CodeSmells.Text.Scan

/-!
Lazy classes: few lines and hardly a method that does more than return or assign.
-/

set_option autoImplicit false

namespace CodeSmells.LazyClass

open Text

/-- Whether a text goes on to its end on the same line. -/
def runsToEnd (cs : List Char) : Bool :=
  atEnd (cs.dropWhile (· != '\n'))

/-- Whether an operator that assigns starts the text, and the text ends on the same line. -/
def assigns (cs : List Char) : Bool :=
  let plain : List Char → Bool
    | '=' :: '=' :: _ => false
    | '=' :: rest => runsToEnd rest
    | _ => false
  plain cs ||
    match cs with
    | c :: rest => ['-', '+', '*', '/'].contains c && plain rest
    | [] => false

/-- Whether a text is a name that is assigned to. -/
def isNameAssignment (cs : List Char) : Bool :=
  match name? cs with
  | some (_, rest) => assigns (skipBlanks rest)
  | none => false

/-- Whether a content is a bare return or assignment. -/
def isBareStatement (content : List Char) : Bool :=
  (startsWithWord ["return"] content && runsToEnd content) ||
    (match after? "self.".toList content with
      | some rest => isNameAssignment rest
      | none => false) ||
    isNameAssignment content

/-- Named like an accessor and short, or at most two lines of bare returns and assignments. -/
def isTrivial (m : Method) : Bool :=
  m.isGetterOrSetter || (m.loc ≤ 2 && m.codeLines.all fun l => isBareStatement l.content)

/-- What the names of methods say about the tasks of a class. -/
def taskFragments : List (String × List String) :=
  [("processing", ["process", "handle"]),
   ("management", ["manage", "control"]),
   ("computation", ["calculate", "compute"]),
   ("rendering", ["draw", "render"]),
   ("persistence", ["save", "load"])]

/-- The tasks of a class: holding data, and those that its method names speak of. -/
def responsibilities (k : Class) : List String :=
  let names := k.methodNames.map fun n => lower n.toList
  (if k.fields.isEmpty then [] else ["data_management"]) ++
    (taskFragments.filter fun (_, fragments) =>
      names.any fun n => fragments.any fun f => occursIn f.toList n).map (·.1)

/-- The measures of a class. -/
structure Findings where
  totalLoc : Nat
  methodCount : Nat
  trivialMethods : Nat
  responsibilities : List String
deriving DecidableEq, Inhabited

/-- Measures a class. -/
def findings (k : Class) : Findings :=
  ⟨k.totalLoc, k.methodCount, k.methods.countP isTrivial, responsibilities k⟩

namespace Findings

variable (f : Findings)

/-- The number of methods that are not trivial. -/
def realMethods : Nat :=
  f.methodCount - f.trivialMethods

/-- Whether both the lines and the real methods stay below their limits. -/
def detected (t : Thresholds) : Except Fault Bool := do
  if ← Measured.below f.totalLoc (← t.get "min_loc") then
    Measured.below f.realMethods (← t.get "min_methods")
  else return false

/-- How grave the lack of lines is. -/
def severity : Severity :=
  .grade [(f.totalLoc < 10, .medium)]

/-- The findings as a table. -/
def toValue (t : Thresholds) : Value :=
  .table [
    ("total_loc", .count f.totalLoc),
    ("method_count", .count f.methodCount),
    ("real_methods", .count f.realMethods),
    ("trivial_methods", .count f.trivialMethods),
    ("responsibilities", .texts f.responsibilities),
    ("thresholds", t.configured)]

end Findings

/-- The detector of lazy classes. -/
def detector : Detector where
  name := "LazyClass"
  description := "Class does too little to justify its existence"
  scopes := [.perClass]
  defaults := [("min_loc", .whole 20), ("min_methods", .whole 2), ("min_responsibilities", .whole 1)]
  evaluate scope t :=
    match scope with
    | .ofClass k .. => do
      let f := findings k
      return some ⟨← f.detected t, f.severity, scope.location, f.toValue t⟩
    | _ => .ok none

end CodeSmells.LazyClass
