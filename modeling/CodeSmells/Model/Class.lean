import CodeSmells.Grouping
import CodeSmells.Model.Method

/-!
Classes. The fields of a class and the exported and typed ones among them are sets.
-/

set_option autoImplicit false

namespace CodeSmells

/-- A class with its fields and methods; `autoload` marks a global singleton. -/
structure Class where
  name : String
  fields : List String
  methods : List Method
  parent : Option String
  exportedFields : List String
  autoload : Bool
  filePath : Option String
  typedFields : List String
deriving DecidableEq, Inhabited

namespace Class

variable (k : Class)

/-- The lines of all methods. -/
def totalLoc : Nat :=
  total (k.methods.map Method.loc)

/-- The number of methods. -/
def methodCount : Nat :=
  k.methods.length

/-- The number of fields. -/
def fieldCount : Nat :=
  k.fields.length

/-- The fields in increasing order. -/
def fieldNames : List String :=
  sortedSet k.fields

/-- The names of the methods in order. -/
def methodNames : List String :=
  k.methods.map (·.name)

/-- The fields without a declared type, in increasing order. -/
def untypedFields : List String :=
  k.fieldNames.filter fun f => !k.typedFields.contains f

/-- The private fields in increasing order. -/
def privateFields : List String :=
  k.fieldNames.filter isPrivateName

/-- The fields that are not private, in increasing order. -/
def publicFields : List String :=
  k.fieldNames.filter fun f => !isPrivateName f

/-- The first method of a name. -/
def method? (name : String) : Option Method :=
  k.methods.find? fun m => m.name == name

/-- Whether there is a method of a name. -/
def hasMethod (name : String) : Bool :=
  (k.method? name).isSome

/-- Whether another class names this one as its parent. -/
def isParentOf (other : Class) : Bool :=
  other.parent == some k.name

end Class

end CodeSmells
