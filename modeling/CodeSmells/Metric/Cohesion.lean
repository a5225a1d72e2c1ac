import CodeSmells.Grouping
import CodeSmells.Model.Class

/-!
Lack of cohesion: how many more pairs of methods share no declared field than share one.
-/

set_option autoImplicit false

namespace CodeSmells.Class

variable (k : Class)

/-- The declared fields that a method accesses. -/
def accessedFields (m : Method) : List String :=
  k.fields.filter fun f => m.accessesField k.name f

/-- Whether two methods access a common declared field. -/
def shareField (m n : Method) : Bool :=
  (k.accessedFields m).any fun f => (k.accessedFields n).contains f

/-- The surplus of method pairs that share no declared field over those that do. -/
def lackOfCohesion : Nat :=
  let all := pairs k.methods
  let sharing := all.countP fun (m, n) => k.shareField m n
  let apart := all.countP fun (m, n) => !k.shareField m n
  apart - sharing

end CodeSmells.Class
