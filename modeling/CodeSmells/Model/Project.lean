import CodeSmells.Model.Class
import CodeSmells.Number.Binary

/-!
Projects: the classes, scenes, signals and autoloads of a game.
-/

set_option autoImplicit false

namespace CodeSmells

/-- A scene with its root node, its other nodes and the script of the root. Only the name is
checked; the other parts are kept as they were described, which for a scene that was read means
texts. -/
structure Scene where
  name : String
  rootNode : Value
  childNodes : List Value
  scriptPath : Value
  filePath : Value
deriving Inhabited

/-- A signal with the class that declares it. Only the name is checked; the other parts are kept as
they were described. -/
structure Signal where
  name : String
  owner : Value
  parameters : List Value
deriving Inhabited

/-- A whole project; the autoloads are among its classes. -/
structure Project where
  classes : List Class
  scenes : List Scene
  autoloads : List Class
  signals : List Signal
  name : String
deriving Inhabited

/-- A text that is there and not empty. -/
def isPresent : Option String → Bool
  | some s => s != ""
  | none => false

/-- The first text if it is present, else the second. -/
def firstPresent (a b : Option String) : Option String :=
  if isPresent a then a else b

namespace Scene

/-- A scene from the texts of its parts. -/
def make (name : String) (rootNode : Option String) (childNodes : List String)
    (scriptPath filePath : Option String) : Except ModelError Scene := do
  let name ← identifier (.text name)
  return ⟨name, .optText rootNode, childNodes.map .text, .optText scriptPath, .optText filePath⟩

/-- Whether the root has a script. -/
def hasScript (s : Scene) : Bool :=
  s.scriptPath.isTruthy

/-- The number of nodes; a root without a name is not counted. -/
def totalNodes (s : Scene) : Nat :=
  s.childNodes.length + if s.rootNode.isTruthy then 1 else 0

end Scene

/-- The counts that summarise a project. -/
structure Statistics where
  totalClasses : Nat
  totalScenes : Nat
  autoloads : Nat
  regularClasses : Nat
  totalMethods : Nat
  totalSignals : Nat
  totalLoc : Nat
  averageLoc : Value

namespace Project

/-- A project from its parts, provided that the autoloads are flagged classes of it. -/
def make (classes : List Class) (scenes : List Scene) (autoloads : List Class)
    (signals : List Signal) (name : String) : Except ModelError Project := do
  for a in autoloads do
    if !a.autoload then throw (.unflaggedAutoload a.name)
    if !classes.contains a then throw (.foreignAutoload a.name)
  return ⟨classes, scenes, autoloads, signals, name⟩

variable (p : Project)

/-- The classes that are no autoloads. -/
def regularClasses : List Class :=
  p.classes.filter fun k => !k.autoload

/-- The names of the classes in order. -/
def classNames : List String :=
  p.classes.map (·.name)

/-- The first class of a name. -/
def findClass (name : String) : Option Class :=
  p.classes.find? fun k => k.name == name

/-- The classes that name a class as their parent. -/
def subclassesOf (name : String) : List Class :=
  p.classes.filter fun k => k.parent == some name

/-- The lines of all methods. -/
def totalLoc : Nat :=
  total (p.classes.map Class.totalLoc)

/-- The number of methods of all classes. -/
def methodCount : Nat :=
  total (p.classes.map Class.methodCount)

/-- The summary of the project. The mean has two decimal places, and is a plain nought when there
is no class. -/
def statistics : Statistics where
  totalClasses := p.classes.length
  totalScenes := p.scenes.length
  autoloads := p.autoloads.length
  regularClasses := p.regularClasses.length
  totalMethods := p.methodCount
  totalSignals := p.signals.length
  totalLoc := p.totalLoc
  averageLoc :=
    match p.classes.length with
    | 0 => .whole 0
    | others + 1 => .real ((Quantity.ratio p.totalLoc (others + 1)).roundPlaces 2)

end Project

/-- The statistics as a table. -/
def Statistics.toValue (s : Statistics) : Value :=
  .table [
    ("total_classes", .count s.totalClasses),
    ("total_scenes", .count s.totalScenes),
    ("autoloads", .count s.autoloads),
    ("regular_classes", .count s.regularClasses),
    ("total_methods", .count s.totalMethods),
    ("total_signals", .count s.totalSignals),
    ("total_loc", .count s.totalLoc),
    ("average_loc_per_class", s.averageLoc)]

end CodeSmells
