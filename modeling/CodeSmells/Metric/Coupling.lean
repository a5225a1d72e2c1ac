import CodeSmells.Model.Project

/-!
Which classes depend on which, and which method a call means. Names decide: a call or a field
access refers to the class that its qualifier or owner names.
-/

set_option autoImplicit false

namespace CodeSmells

/-- The class name at the head of a call's qualifier; none for a bare call. -/
def CallEdge.ownerName? (e : CallEdge) : Option String :=
  if e.qualifier == "" then none else some (headSegment e.qualifier)

namespace Class

variable (k : Class)

/-- Whether a method of the class calls into a class of this name or accesses a field of it. -/
def references (target : String) : Bool :=
  k.methods.any fun m =>
    (m.calls.any fun e => e.ownerName? == some target) ||
      (m.accesses.any fun a => a.owner == target)

/-- The number of other class names coupled to the class in either direction. -/
def coupling (classes : List Class) : Nat :=
  let coupled := classes.filter fun other =>
    other.name != k.name && (k.references other.name || other.references k.name)
  (coupled.map (·.name)).eraseDups.length

/-- The class names that the calls and accesses of the class lead to. -/
def referenceNames : List String :=
  k.methods.flatMap fun m => m.calls.map (fun e => e.ownerName?.getD "") ++ m.accesses.map (·.owner)

/-- The other classes of a project that the class depends on, in order. -/
def dependencies (p : Project) : List String :=
  sortedSet (k.referenceNames.filter fun n => n != k.name && p.classNames.contains n)

end Class

namespace Project

variable (p : Project)

/-- Looks a method up along a chain of parents. Names already seen end the search; so does the
fuel, which the number of classes bounds. -/
def lookupFrom (method : String) : Nat → List String → Option Class → Option String
  | 0, _, _ => none
  | _ + 1, _, none => none
  | fuel + 1, seen, some k =>
    if seen.contains k.name then none
    else if k.hasMethod method then some k.name
    else
      match k.parent with
      | none => none
      | some parent => lookupFrom method fuel (k.name :: seen) (p.findClass parent)

/-- The nearest class that declares a method, from a class upwards. -/
def lookupInherited (className method : String) : Option String :=
  p.lookupFrom method (p.classes.length + 1) [] (p.findClass className)

/-- The only class that has a method of this name. -/
def uniqueOwner (method : String) : Option String :=
  match p.classes.filter fun k => k.hasMethod method with
  | [k] => some k.name
  | _ => none

/-- The class and method that a call means. Bare calls and calls on `self` are looked up in the
caller's own line of parents, calls on `super` above it, and others in the class that the
qualifier names. Where that finds nothing a method name that is unique in the project decides,
except for `super`. -/
def resolveCallee (e : CallEdge) : Option (String × String) :=
  let inherited :=
    if e.qualifier == "" || e.qualifier == "self" then p.lookupInherited e.caller e.target
    else if e.qualifier == "super" then
      match (p.findClass e.caller).bind (·.parent) with
      | some parent => p.lookupInherited parent e.target
      | none => none
    else p.lookupInherited e.qualifier e.target
  let owner :=
    match inherited with
    | some owner => some owner
    | none => if e.qualifier == "super" then none else p.uniqueOwner e.target
  owner.map (·, e.target)

end Project

end CodeSmells
