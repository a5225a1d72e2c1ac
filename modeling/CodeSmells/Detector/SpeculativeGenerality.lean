import CodeSmells.Smell.Detector
import CodeSmells.Text.Mention

/-!
Speculative generality: methods that nobody calls, parameters that nobody reads, and classes that
look abstract without having more than one subclass. Engine callbacks and handlers of signals are
called without a visible call.
-/

set_option autoImplicit false

namespace CodeSmells.SpeculativeGenerality

open Text

/-- The engine's callbacks. -/
def entryPoints : List String :=
  ["_init", "_ready", "_enter_tree", "_exit_tree", "_process", "_physics_process", "_input",
   "_unhandled_input", "_unhandled_key_input", "_gui_input", "_draw", "_notification",
   "_to_string", "_get_configuration_warnings"]

/-- Whether a method is called without a visible call. -/
def isEntryPoint (m : Method) : Bool :=
  entryPoints.contains (lowercase m.name) || lowerStartsWith ["_on_", "public_"] m.name

/-- The method names that some call of the project ends in. -/
def referencedNames (p : Project) : List String :=
  p.classes.flatMap fun k => k.methods.flatMap fun m => m.calls.map CallEdge.target

/-- A mention of a parameter: the whole name with no word character and no dot before it. -/
def parameterMention (name : List Char) : Pattern Unit := fun before cs =>
  if standsFree ['.'] before then (wholeName? name cs).map ((), ·) else none

/-- Whether no code line mentions a parameter that is not marked as unused. -/
def isUnusedParameter (name : String) (m : Method) : Bool :=
  !isPrivateName name &&
    !m.codeLines.any fun l => (parameterMention name.toList).occurs l.content

/-- Whether a short method does nothing or says that it is a placeholder. -/
def isStub (m : Method) : Bool :=
  let body := trim (lower m.bodyText)
  m.loc ≤ 2 && !isEntryPoint m &&
    (body.isEmpty || hasWord ["pass"] body || occursIn "placeholder".toList body)

/-- Whether a class has a method that does nothing. -/
def looksAbstract (k : Class) : Bool :=
  k.methods.any isStub

/-- A method that nobody calls. -/
structure UnusedMethod where
  className : String
  name : String
  loc : Nat
deriving DecidableEq, Inhabited

/-- A parameter that nobody reads. -/
structure UnusedParameter where
  className : String
  method : String
  parameter : String
  typeName : Option String
deriving DecidableEq, Inhabited

/-- The methods of a class that no call names. -/
def unusedMethods (referenced : List String) (k : Class) : List UnusedMethod :=
  (k.methods.filter fun m => !referenced.contains m.name && !isEntryPoint m).map fun m =>
    ⟨k.name, m.name, m.loc⟩

/-- The unused parameters of a class. -/
def unusedParameters (k : Class) : List UnusedParameter :=
  k.methods.flatMap fun m =>
    (m.parameters.filter fun q => isUnusedParameter q.name m).map fun q =>
      ⟨k.name, m.name, q.name, q.typeName⟩

/-- Whether a class looks abstract and has at most one subclass. -/
def isNeedlesslyAbstract (p : Project) (k : Class) : Bool :=
  looksAbstract k && (p.subclassesOf k.name).length ≤ 1

/-- What was written for needs that never came. -/
structure Findings where
  unusedMethods : List UnusedMethod
  unusedParameters : List UnusedParameter
  abstractClasses : List String
deriving DecidableEq, Inhabited

/-- Looks at some classes of a project. -/
def findings (p : Project) (classes : List Class) : Findings :=
  let referenced := referencedNames p
  { unusedMethods := classes.flatMap (SpeculativeGenerality.unusedMethods referenced)
    unusedParameters := classes.flatMap SpeculativeGenerality.unusedParameters
    abstractClasses := (classes.filter (isNeedlesslyAbstract p)).map (·.name) }

namespace Findings

variable (f : Findings)

/-- Whether a count exceeds its limit or a class is needlessly abstract. -/
def detected (t : Thresholds) : Except Fault Bool := do
  if ← anyAbove t [(f.unusedMethods.length, "unused_methods"),
      (f.unusedParameters.length, "unused_parameters")] then return true
  else return !f.abstractClasses.isEmpty

/-- How grave the counts are. -/
def severity : Severity :=
  .grade [
    (f.unusedMethods.length > 5, .high),
    (f.unusedMethods.length > 2 || f.unusedParameters.length > 3, .medium)]

/-- The findings as a table. -/
def toValue (t : Thresholds) : Value :=
  .table [
    ("unused_methods", .row (f.unusedMethods.map fun u => .table [
      ("class_name", .text u.className), ("name", .text u.name), ("loc", .count u.loc)])),
    ("unused_parameters", .row (f.unusedParameters.map fun u => .table [
      ("class_name", .text u.className),
      ("method", .text u.method),
      ("parameter", .text u.parameter),
      ("type_name", .optText u.typeName)])),
    ("abstract_classes", .texts f.abstractClasses),
    ("thresholds", t.configured)]

end Findings

/-- The verdict on some classes of a project. -/
def verdict (scope : Scope) (p : Project) (classes : List Class) (t : Thresholds) :
    Except Fault (Option Verdict) := do
  let f := findings p classes
  return some ⟨← f.detected t, f.severity, scope.location, f.toValue t⟩

/-- The detector of speculative generality. -/
def detector : Detector where
  name := "SpeculativeGenerality"
  description := "Code written for future needs that never arrived"
  scopes := [.perClass, .perProject]
  defaults := [("unused_methods", .whole 0), ("unused_parameters", .whole 0)]
  evaluate scope t :=
    match scope with
    | .ofClass k p _ => verdict scope p [k] t
    | .ofProject p => verdict scope p p.classes t
    | _ => .ok none

end CodeSmells.SpeculativeGenerality
