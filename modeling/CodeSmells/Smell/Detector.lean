import CodeSmells.Smell.Result

/-!
Detectors. A detector reads the code model and a table of thresholds, and answers with a verdict,
with nothing when it does not apply to the scope, or with a fault. Thresholds that are not given
have the detector's defaults. A threshold that is not a number cannot be compared, which is a
fault as soon as the comparison is made. It is a fault too to ask for a threshold that is neither
given nor declared, to take a text for a number that is none, and to build a result whose flag and
severity do not agree.
-/

set_option autoImplicit false

namespace CodeSmells

/-- Why a detector broke off. -/
inductive Fault where
  | incomparable (relation : String) (left right : String)
  | unknownThreshold (key : String)
  | unreadable (literal : String)
  | malformed (error : ResultError)
  | raised (message : String)
deriving DecidableEq, Inhabited

/-- The wording of a fault. -/
def Fault.message : Fault → String
  | incomparable relation left right =>
    "'" ++ relation ++ "' not supported between instances of '" ++ left ++ "' and '" ++ right ++ "'"
  | unknownThreshold key => "'" ++ key ++ "'"
  | unreadable literal => "could not convert string to float: " ++ Text.quoted literal
  | malformed error => error.message
  | raised message => message

/-- Thresholds as given and as declared. -/
structure Thresholds where
  given : Entries
  defaults : Entries

namespace Thresholds

/-- The value in force for a key. -/
def get (t : Thresholds) (key : String) : Except Fault Value :=
  match t.given.get? key, t.defaults.get? key with
  | some v, _ => .ok v
  | none, some v => .ok v
  | none, none => .error (.unknownThreshold key)

/-- The values in force for all declared keys. -/
def configured (t : Thresholds) : Value :=
  .table (t.defaults.map fun (k, v) => (k, (t.given.get? k).getD v))

end Thresholds

/-- A measured number: a count or a quotient. -/
structure Measured where
  quantity : Quantity
  kindName : String

instance : Coe Nat Measured := ⟨fun n => ⟨.ofNat n, "int"⟩⟩

instance : Coe Quantity Measured := ⟨fun x => ⟨x, "float"⟩⟩

/-- Compares a measured number with the value of a threshold. -/
def compareWith (relation : String) (test : Quantity → Quantity → Bool) (m : Measured)
    (limit : Value) : Except Fault Bool :=
  match limit.quantity? with
  | some q => .ok (test m.quantity q)
  | none => .error (.incomparable relation m.kindName limit.kindName)

/-- Whether a measured number lies above a limit. -/
def Measured.above (m : Measured) (limit : Value) : Except Fault Bool :=
  compareWith ">" (fun x q => q.lt x) m limit

/-- Whether a measured number lies below a limit. -/
def Measured.below (m : Measured) (limit : Value) : Except Fault Bool :=
  compareWith "<" (fun x q => x.lt q) m limit

/-- Whether a measured number reaches a limit. -/
def Measured.atLeast (m : Measured) (limit : Value) : Except Fault Bool :=
  compareWith ">=" (fun x q => q.le x) m limit

/-- Whether a measured number stays within a limit. -/
def Measured.atMost (m : Measured) (limit : Value) : Except Fault Bool :=
  compareWith "<=" (fun x q => x.le q) m limit

/-- Whether one of the measured numbers lies above the limit of its key; later ones are looked at
only when the earlier ones do not. -/
def anyAbove (t : Thresholds) : List (Measured × String) → Except Fault Bool
  | [] => .ok false
  | (m, key) :: rest => do
    if ← m.above (← t.get key) then return true else anyAbove t rest

/-- A verdict on a scope. The severity counts only when the smell was detected. -/
structure Verdict where
  detected : Bool
  severity : Severity
  location : Location
  details : Value

/-- A named detector with the scopes it understands and its default thresholds. -/
structure Detector where
  name : String
  description : String
  scopes : List ScopeKind
  defaults : Entries
  ratioKeys : List String := []
  heuristic : Bool := false
  evaluate : Scope → Thresholds → Except Fault (Option Verdict)

/-- The result that a verdict amounts to. -/
def Verdict.toResult (smell : String) (v : Verdict) : Except Fault Result :=
  (Result.make smell v.detected (if v.detected then some v.severity else none) v.location
    v.details).mapError .malformed

/-- Every verdict amounts to a result, since its severity is dropped when nothing was detected. -/
theorem Verdict.exists_toResult (smell : String) (v : Verdict) :
    ∃ r : Result, v.toResult smell = .ok r ∧ r.smell = smell := by
  have h : v.detected = (if v.detected then some v.severity else none).isSome := by
    cases v.detected <;> rfl
  refine ⟨⟨smell, v.detected, _, v.location, v.details, h⟩, ?_, rfl⟩
  rw [toResult, Result.make, dif_pos h]
  rfl

namespace Detector

/-- Whether the detector understands a kind of scope. -/
def supports (d : Detector) (kind : ScopeKind) : Bool :=
  d.scopes.contains kind

/-- The result at a scope; nothing when the detector does not apply. -/
def detect (d : Detector) (scope : Scope) (given : Entries) : Except Fault (Option Result) :=
  if d.supports scope.kind then do
    match ← d.evaluate scope ⟨given, d.defaults⟩ with
    | some verdict => return some (← verdict.toResult d.name)
    | none => return none
  else return none

/-- A detector without thresholds that breaks off at the given kinds of scope. -/
def failing (name message : String) (scopes : List ScopeKind) : Detector where
  name := name
  description := ""
  scopes := scopes
  defaults := []
  evaluate := fun _ _ => .error (.raised message)

end Detector

end CodeSmells
