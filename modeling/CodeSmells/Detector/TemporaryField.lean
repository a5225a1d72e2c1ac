import CodeSmells.Grouping
import CodeSmells.Metric.Block
import CodeSmells.Smell.Detector
import CodeSmells.Text.Mention

/-!
Temporary fields: fields that are read only under conditions and guarded by repeated null checks.
An assignment is not a read. A read is conditional when it is a conditional header or stands in the
body of one.
-/

set_option autoImplicit false

namespace CodeSmells.TemporaryField

open Text

/-- An assignment operator at the start of a text. -/
def startsAssignment (cs : List Char) : Bool :=
  let plain : List Char → Bool
    | '=' :: '=' :: _ => false
    | '=' :: _ => true
    | _ => false
  match cs with
  | ':' :: '=' :: _ => true
  | c :: rest => plain cs || (['-', '+', '*', '/'].contains c && plain rest)
  | [] => false

/-- Whether a content assigns to a field. -/
def isAssignmentTo (content name : List Char) : Bool :=
  let assigned (cs : List Char) : Bool :=
    match after? name cs with
    | some rest => startsAssignment (skipBlanks rest)
    | none => false
  (match after? "self.".toList content with
    | some rest => assigned rest
    | none => false) || assigned content

/-- A call of the validity check. -/
def validityCall : Pattern Unit := fun before cs =>
  if isBoundary before cs.head? then
    match after? "is_instance_valid".toList cs with
    | some rest => (char? '(' (skipBlanks rest)).map ((), ·)
    | none => none
  else none

/-- Whether a content checks for null. -/
def checksNull (content : List Char) : Bool :=
  hasWord ["null"] content || validityCall.occurs content

/-- How a field is used in one line. -/
structure LineUse where
  isRead : Bool
  isNullCheck : Bool
  isConditional : Bool
deriving DecidableEq, Inhabited

/-- The uses of a field in the remaining lines of a method; the lines before them stand nearest
first in `earlier`. -/
def usesFrom (name : List Char) (earlier : List SourceLine) : List SourceLine → List LineUse
  | [] => []
  | line :: later =>
    let rest := usesFrom name (line :: earlier) later
    let content := line.content
    if line.isCode && (fieldMention name (fun _ => true)).occurs content then
      let isRead := !isAssignmentTo content name
      ⟨isRead, isRead && checksNull content,
        isRead && (isConditionalHeader content || insideConditional line.indent earlier)⟩ :: rest
    else rest

/-- The uses of a field in a method. -/
def uses (name : String) (m : Method) : List LineUse :=
  usesFrom name.toList [] m.lines

/-- How often a field is read, under conditions and in null checks, and by which methods it is
used. -/
structure Usage where
  field : String
  nullChecks : Nat
  reads : Nat
  conditionalReads : Nat
  methods : List String
deriving DecidableEq, Inhabited

/-- The usage of a field in a class. -/
def usage (k : Class) (name : String) : Usage :=
  let all := k.methods.flatMap (uses name)
  { field := name
    nullChecks := all.countP (·.isNullCheck)
    reads := all.countP (·.isRead)
    conditionalReads := all.countP (·.isConditional)
    methods := (k.methods.filter fun m => !(uses name m).isEmpty).map (·.name) }

/-- Read at least once, and only under conditions. -/
def Usage.conditionalOnly (u : Usage) : Bool :=
  u.reads > 0 && u.conditionalReads == u.reads

/-- Whether a field counts as temporary. -/
def isTemporary (t : Thresholds) (u : Usage) : Except Fault Bool := do
  let limit ← t.get "max_null_checks"
  let needsCondition ← t.get "require_conditional_usage"
  if u.conditionalOnly || !needsCondition.isTruthy then Measured.above u.nullChecks limit
  else return false

/-- The temporary fields of a class. -/
structure Findings where
  fields : List Usage
deriving DecidableEq, Inhabited

/-- Finds the temporary fields of a class. -/
def findings (k : Class) (t : Thresholds) : Except Fault Findings := do
  return ⟨← (k.fieldNames.map (usage k)).filterM (isTemporary t)⟩

namespace Findings

variable (f : Findings)

/-- The most null checks of a temporary field. -/
def worst : Nat :=
  greatest (f.fields.map (·.nullChecks))

/-- How grave the null checks are. -/
def severity : Severity :=
  .grade [(f.worst > 5, .medium)]

/-- The findings as a table. -/
def toValue (t : Thresholds) : Value :=
  .table [
    ("temporary_fields", .row (f.fields.map fun u => .table [
      ("field", .text u.field),
      ("null_checks", .count u.nullChecks),
      ("usages", .count u.reads),
      ("conditional_usages", .count u.conditionalReads),
      ("methods", .texts u.methods)])),
    ("max_null_checks", .count f.worst),
    ("thresholds", t.configured)]

end Findings

/-- The detector of temporary fields. -/
def detector : Detector where
  name := "TemporaryField"
  description := "Field only meaningful in some situations, guarded by repeated null checks"
  scopes := [.perClass]
  defaults := [("max_null_checks", .whole 2), ("require_conditional_usage", .flag true)]
  evaluate scope t :=
    match scope with
    | .ofClass k .. => do
      let f ← findings k t
      return some ⟨!f.fields.isEmpty, f.severity, scope.location, f.toValue t⟩
    | _ => .ok none

end CodeSmells.TemporaryField
