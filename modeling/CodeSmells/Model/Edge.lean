import CodeSmells.Model.Name

/-!
Edges of the code model: calls and field accesses. A callee is qualified the way it appears in the
source, so what precedes its last dot is the qualifier and what follows is the target.
-/

set_option autoImplicit false

namespace CodeSmells

/-- A call from a method of the class `caller`. -/
structure CallEdge where
  caller : String
  callee : String
deriving DecidableEq, Inhabited

/-- An access to a field of the class `owner`. -/
structure FieldAccess where
  owner : String
  field : String
deriving DecidableEq, Inhabited

/-- What precedes the last dot, and what follows it; without a dot all follows. -/
def splitLastDot (s : String) : String × String :=
  let back := s.toList.reverse
  match back.dropWhile (· != '.') with
  | [] => ("", s)
  | _ :: front =>
    (String.ofList front.reverse, String.ofList (back.takeWhile (· != '.')).reverse)

/-- What precedes the first dot. -/
def headSegment (s : String) : String :=
  String.ofList (s.toList.takeWhile (· != '.'))

namespace CallEdge

/-- An edge between two names that are both there. -/
def make (caller callee : String) : Except ModelError CallEdge :=
  if caller == "" || callee == "" then .error .incompleteCall else .ok ⟨caller, callee⟩

/-- What the callee is called on; empty for a bare call. -/
def qualifier (e : CallEdge) : String :=
  (splitLastDot e.callee).1

/-- The name of the called method. -/
def target (e : CallEdge) : String :=
  (splitLastDot e.callee).2

instance : LT CallEdge :=
  ⟨fun a b => a.caller < b.caller ∨ (a.caller = b.caller ∧ a.callee < b.callee)⟩

instance : DecidableLT CallEdge := fun a b =>
  inferInstanceAs (Decidable (a.caller < b.caller ∨ (a.caller = b.caller ∧ a.callee < b.callee)))

end CallEdge

namespace FieldAccess

/-- An access with both of its names. -/
def make (owner field : String) : Except ModelError FieldAccess :=
  if owner == "" || field == "" then .error .incompleteAccess else .ok ⟨owner, field⟩

/-- An access to a private field. -/
def isPrivate (a : FieldAccess) : Bool :=
  isPrivateName a.field

instance : LT FieldAccess :=
  ⟨fun a b => a.owner < b.owner ∨ (a.owner = b.owner ∧ a.field < b.field)⟩

instance : DecidableLT FieldAccess := fun a b =>
  inferInstanceAs (Decidable (a.owner < b.owner ∨ (a.owner = b.owner ∧ a.field < b.field)))

end FieldAccess

end CodeSmells
