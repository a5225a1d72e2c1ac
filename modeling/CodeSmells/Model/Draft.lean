import CodeSmells.Model.Project

/-!
Descriptions of code that have not been checked yet, and the checks that turn them into entities
of the code model. A draft may hold any value where a name, a list of names or an entity is
expected; the first fault met is the one reported. Parts are checked before the whole they belong
to, and lines without a number only after the name of their method.
-/

set_option autoImplicit false

namespace CodeSmells

/-- An entity, or a value that stands in its place. -/
inductive Slot (α : Type) where
  | made (entity : α)
  | stray (value : Value)
deriving Inhabited

/-- A line as described: a text alone, or a text with an optional number. -/
inductive LineDraft where
  | bare (text : Value)
  | numbered (text : Value) (number : Option Int)

/-- A parameter as described. -/
inductive ParameterDraft where
  | declared (name : Value) (typeName defaultValue : Option String)
  | stray (value : Value)

/-- A pair of names as described. -/
inductive PairDraft where
  | pair (first second : String)
  | stray (value : Value)

/-- The parts of a method as described. -/
structure MethodParts where
  name : Value
  parameters : List ParameterDraft
  lines : List LineDraft
  calls : List PairDraft
  accesses : List PairDraft
  startLine : Option Int

/-- A method as described. -/
abbrev MethodDraft := Slot MethodParts

/-- The parts of a class as described. A set that is not mentioned is empty. -/
structure ClassParts where
  name : Value
  fields : Option Value
  methods : List MethodDraft
  parent : Value
  exportedFields : Option Value
  autoload : Bool
  filePath : Option String
  typedFields : Option Value

/-- A class as described. -/
abbrev ClassDraft := Slot ClassParts

/-- A scene as described. -/
structure SceneDraft where
  name : Value
  rootNode : Value
  childNodes : Option Value
  scriptPath : Value
  filePath : Value

/-- A signal as described. -/
structure SignalDraft where
  name : Value
  owner : Value
  parameters : Option Value

/-- An autoload as described: a place in the list of classes, or a class of its own. -/
inductive AutoloadDraft where
  | index (n : Nat)
  | described (draft : ClassDraft)

/-- A project as described. Autoloads that are not mentioned are the classes flagged so. -/
structure ProjectDraft where
  name : String
  classes : List ClassDraft
  scenes : List SceneDraft
  autoloads : Option (List AutoloadDraft)
  signals : List SignalDraft

/-- The members of a value that can be walked through: the characters of a text, the items of a
list or the keys of a table. -/
def Value.members? : Value → Option (List Value)
  | .text s => some (s.toList.map fun c => .text (String.singleton c))
  | .list xs => some xs
  | .row xs => some xs
  | .table es => some (es.map fun e => .text e.1)
  | _ => none

mutual

/-- Whether a value can be a member of a set: no list and no table stands in it. -/
def Value.isHashable : Value → Bool
  | .list _ => false
  | .table _ => false
  | .row xs => Value.allHashable xs
  | _ => true

/-- Whether all of the values can be members of a set. -/
def Value.allHashable : List Value → Bool
  | [] => true
  | x :: xs => x.isHashable && Value.allHashable xs

end

/-- A line from the value of its text. -/
def SourceLine.ofValue (text : Value) (number : Option Int) : Except ModelError SourceLine :=
  match text with
  | .text s => SourceLine.make s number
  | v => .error (.badLineText v.kindName)

namespace ParameterDraft

/-- The parameter, or the stray value. -/
def build : ParameterDraft → Except ModelError (Slot Parameter)
  | declared name typeName defaultValue => return .made (← Parameter.make name typeName defaultValue)
  | stray v => return .stray v

end ParameterDraft

namespace PairDraft

/-- The edge, or the stray value. -/
def build {α : Type} (make : String → String → Except ModelError α) :
    PairDraft → Except ModelError (Slot α)
  | pair a b => return .made (← make a b)
  | stray v => return .stray v

end PairDraft

/-- Refuses the first stray value that no set can hold. -/
def checkHashable {α : Type} : List (Slot α) → Except ModelError Unit
  | [] => .ok ()
  | .made _ :: rest => checkHashable rest
  | .stray v :: rest => if v.isHashable then checkHashable rest else .error (.unusable v)

/-- The entities of a list of slots; the first stray value is refused. -/
def onlyMade {α : Type} (refuse : Value → ModelError) : List (Slot α) → Except ModelError (List α)
  | [] => .ok []
  | .made a :: rest => return a :: (← onlyMade refuse rest)
  | .stray v :: _ => .error (refuse v)

/-- A line that is built on its own, or a text for the method to take up. -/
def LineDraft.prepare : LineDraft → Except ModelError (Slot SourceLine)
  | bare text => return .stray text
  | numbered text number => return .made (← SourceLine.ofValue text number)

/-- A prepared line as a line. -/
def LineDraft.finish : Slot SourceLine → Except ModelError SourceLine
  | .made line => .ok line
  | .stray text => SourceLine.ofValue text none

/-- Builds a method from its parts. -/
def MethodParts.build (d : MethodParts) : Except ModelError Method := do
  let parameters ← d.parameters.mapM ParameterDraft.build
  let prepared ← d.lines.mapM LineDraft.prepare
  let calls ← d.calls.mapM (PairDraft.build CallEdge.make)
  let accesses ← d.accesses.mapM (PairDraft.build FieldAccess.make)
  let name ← identifier d.name
  let lines ← prepared.mapM LineDraft.finish
  checkHashable calls
  checkHashable accesses
  let parameters ← onlyMade (.badParameter name) parameters
  let calls ← onlyMade (.badCall name) calls
  let accesses ← onlyMade (.badAccess name) accesses
  return ⟨name, parameters, lines, sortedSet calls, sortedSet accesses, d.startLine⟩

/-- Builds a method, or keeps the stray value. -/
def MethodDraft.build : MethodDraft → Except ModelError (Slot Method)
  | .made parts => return .made (← parts.build)
  | .stray v => return .stray v

/-- The set of names that a value lists. -/
def identifiers (what : String) : Option Value → Except ModelError (List String)
  | none => .ok []
  | some v =>
    match v.members? with
    | some members => return sortedSet (← members.mapM identifier)
    | none => .error (.notIdentifiers what)

/-- The name of the parent that a value stands for; none where there is no value. -/
def parentName : Value → Except ModelError (Option String)
  | .null => .ok none
  | v => some <$> identifier v

/-- Builds a class from its parts. -/
def ClassParts.build (d : ClassParts) : Except ModelError Class := do
  let methods ← d.methods.mapM MethodDraft.build
  let name ← identifier d.name
  let parent ← parentName d.parent
  let fields ← identifiers "fields" d.fields
  let exportedFields ← identifiers "exported fields" d.exportedFields
  let typedFields ← identifiers "typed fields" d.typedFields
  let methods ← onlyMade (.badMethod name) methods
  return ⟨name, fields, methods, parent, exportedFields, d.autoload, d.filePath, typedFields⟩

/-- Builds a class, or keeps the stray value. -/
def ClassDraft.build : ClassDraft → Except ModelError (Slot Class)
  | .made parts => return .made (← parts.build)
  | .stray v => return .stray v

/-- The values that a value lists; none where nothing is mentioned. -/
def listed : Option Value → Except ModelError (List Value)
  | none => .ok []
  | some v =>
    match v.members? with
    | some members => .ok members
    | none => .error (.unusable v)

/-- Builds a scene. -/
def SceneDraft.build (d : SceneDraft) : Except ModelError Scene := do
  let name ← identifier d.name
  let childNodes ← listed d.childNodes
  return ⟨name, d.rootNode, childNodes, d.scriptPath, d.filePath⟩

/-- Builds a signal. -/
def SignalDraft.build (d : SignalDraft) : Except ModelError Signal := do
  let name ← identifier d.name
  let parameters ← listed d.parameters
  return ⟨name, d.owner, parameters⟩

/-- The class that an autoload refers to. -/
def AutoloadDraft.resolve (classes : List (Slot Class)) :
    AutoloadDraft → Except ModelError (Slot Class)
  | index n =>
    match classes[n]? with
    | some slot => .ok slot
    | none => .error (.unusable (.whole n))
  | described d => d.build

/-- The classes flagged as autoloads. -/
def flagged : List (Slot Class) → List (Slot Class)
  | [] => []
  | .made k :: rest => if k.autoload then .made k :: flagged rest else flagged rest
  | .stray _ :: rest => flagged rest

/-- The autoloads that are mentioned, or the classes flagged so where none are. -/
def resolveAutoloads (classes : List (Slot Class)) :
    Option (List AutoloadDraft) → Except ModelError (List (Slot Class))
  | none => .ok (flagged classes)
  | some refs => refs.mapM (AutoloadDraft.resolve classes)

/-- Builds a project. -/
def ProjectDraft.build (d : ProjectDraft) : Except ModelError Project := do
  let classes ← d.classes.mapM ClassDraft.build
  let autoloads ← resolveAutoloads classes d.autoloads
  let scenes ← d.scenes.mapM SceneDraft.build
  let signals ← d.signals.mapM SignalDraft.build
  let classes ← onlyMade (.badClass d.name) classes
  let autoloads ← onlyMade .unusable autoloads
  Project.make classes scenes autoloads signals d.name

end CodeSmells
