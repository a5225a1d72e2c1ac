import CodeSmells.Grouping
import CodeSmells.Smell.Detector

/-!
Divergent change: a class that changes for many reasons. Methods are grouped by what their names
say they do; a group of two or more methods is a reason to change.
-/

set_option autoImplicit false

namespace CodeSmells.DivergentChange

open Text (lower occursIn startsWith)

/-- The groups of methods. -/
inductive Group where
  | getters
  | setters
  | processors
  | handlers
  | utilities
  | managers
deriving DecidableEq, Inhabited

namespace Group

/-- All groups in the order in which they are tried and listed. -/
def all : List Group :=
  [getters, setters, processors, handlers, utilities, managers]

/-- The name of a group in reports. -/
def name : Group → String
  | getters => "getters"
  | setters => "setters"
  | processors => "processors"
  | handlers => "handlers"
  | utilities => "utilities"
  | managers => "managers"

/-- Texts with which a name of the group may start. -/
def openings : Group → List String
  | getters => ["get_", "is_", "has_"]
  | setters => ["set_"]
  | _ => []

/-- Texts that a name of the group may hold. -/
def fragments : Group → List String
  | processors => ["process", "update", "calculate"]
  | handlers => ["handle", "on_", "callback"]
  | utilities => ["util", "helper", "tool"]
  | managers => ["manage", "control", "direct"]
  | _ => []

/-- Whether a lower case name belongs to the group. -/
def admits (g : Group) (lowered : List Char) : Bool :=
  (g.openings.any fun o => startsWith o.toList lowered) ||
    g.fragments.any fun f => occursIn f.toList lowered

end Group

/-- The first group that a method name belongs to. -/
def changeGroup (name : String) : Option Group :=
  Group.all.find? fun g => g.admits (lower name.toList)

/-- Whether a field goes with a method: in lower case the field occurs in the method's name, or
what precedes the first underscore of the method's name occurs in the field. -/
def isRelated (field method : String) : Bool :=
  let f := lower field.toList
  let m := lower method.toList
  occursIn f m || occursIn (m.takeWhile (· != '_')) f

/-- The fields that go with one of some methods. -/
def relatedFields (k : Class) (methods : List Method) : List String :=
  k.fieldNames.filter fun f => methods.any fun m => isRelated f m.name

/-- One reason for which a class changes. -/
structure Reason where
  description : String
  methods : List String
  fields : List String
  methodCount : Nat
deriving DecidableEq, Inhabited

/-- The methods of a group. -/
def groupMethods (k : Class) (g : Group) : List Method :=
  k.methods.filter fun m => changeGroup m.name == some g

/-- The reasons that groups of two or more methods give. -/
def groupedReasons (k : Class) : List Reason :=
  (Group.all.filter fun g => (groupMethods k g).length ≥ 2).map fun g =>
    let methods := groupMethods k g
    ⟨g.name ++ " functionality", methods.map (·.name), relatedFields k methods, methods.length⟩

/-- The reasons for which a class changes. More than five methods without any group are one
unorganized reason. -/
def changeReasons (k : Class) : List Reason :=
  let grouped := groupedReasons k
  if grouped.isEmpty && k.methodCount > 5 then
    [⟨"unorganized functionality", k.methodNames, k.fieldNames, k.methodCount⟩]
  else grouped

/-- The reasons found for a class. -/
structure Findings where
  reasons : List Reason
  methodCount : Nat
  fieldCount : Nat
deriving DecidableEq, Inhabited

/-- Finds the reasons of a class. -/
def findings (k : Class) : Findings :=
  ⟨changeReasons k, k.methodCount, k.fieldCount⟩

namespace Findings

variable (f : Findings)

/-- Whether there are too many reasons. -/
def detected (t : Thresholds) : Except Fault Bool :=
  anyAbove t [(f.reasons.length, "max_reasons")]

/-- How grave the number of reasons is. -/
def severity : Severity :=
  .grade [
    (f.reasons.length > 7, .critical),
    (f.reasons.length > 5, .high),
    (f.reasons.length > 3, .medium)]

/-- The findings as a table. -/
def toValue (t : Thresholds) : Value :=
  .table [
    ("change_reasons", .row (f.reasons.map fun r => .table [
      ("description", .text r.description),
      ("affected_methods", .texts r.methods),
      ("affected_fields", .texts r.fields),
      ("method_count", .count r.methodCount)])),
    ("method_count", .count f.methodCount),
    ("field_count", .count f.fieldCount),
    ("thresholds", t.configured)]

end Findings

/-- The detector of divergent change. -/
def detector : Detector where
  name := "DivergentChange"
  description := "Class is changed for many unrelated reasons"
  scopes := [.perClass]
  defaults := [("max_reasons", .whole 3)]
  evaluate scope t :=
    match scope with
    | .ofClass k .. => do
      let f := findings k
      return some ⟨← f.detected t, f.severity, scope.location, f.toValue t⟩
    | _ => .ok none

end CodeSmells.DivergentChange
