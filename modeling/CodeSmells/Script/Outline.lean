import CodeSmells.Keyed
import CodeSmells.Model.Project
import CodeSmells.Script.Body
import CodeSmells.Script.Naming
import CodeSmells.Text.Scan

/-!
What the statements of a script or class body declare: fields, methods, signals, inner classes and
the parent class. Wrapped statements are read as if they stood on one line.
-/

set_option autoImplicit false

namespace CodeSmells.Script

open Text

/-- A text on one line: its lines without the blanks around them, joined by single blanks. -/
def flatten (text : String) : List Char :=
  [' '].intercalate (((lines text.toList).map trim).filter fun l => !l.isEmpty)

/-- What stands in parentheses, up to the first closing one. -/
def parenthesized? (cs : List Char) : Option (List Char) := do
  let rest ← char? '(' cs
  char? ')' (rest.dropWhile (· != ')'))

/-- An annotation at the start of a text, with its arguments if there are any. -/
def marker? (cs : List Char) : Option (List Char) := do
  let (_, rest) ← run? isWord (← char? '@' cs)
  return (parenthesized? rest).getD rest

/-- Whether a text consists of annotations only. -/
def isAnnotationLine : Nat → List Char → Bool
  | 0, _ => false
  | fuel + 1, cs =>
    match marker? cs with
    | none => false
    | some rest => (skipBlanks rest).isEmpty || isAnnotationLine fuel (skipBlanks rest)

/-- The text after the annotations at its start, each of which a blank follows. -/
def afterAnnotations : Nat → List Char → List Char
  | 0, cs => cs
  | fuel + 1, cs =>
    match (marker? cs).bind someBlanks? with
    | some rest => afterAnnotations fuel rest
    | none => cs

/-- The text after a word and the blanks that follow it. -/
def afterWord? (word : String) (cs : List Char) : Option (List Char) :=
  (after? word.toList cs).bind someBlanks?

/-- The text after the older form of an export, with its hints if there are any. -/
def afterExport? (cs : List Char) : Option (List Char) := do
  let rest ← after? "export".toList cs
  guard (isBoundary (some 't') rest.head?)
  someBlanks? ((parenthesized? (skipBlanks rest)).getD rest)

/-- A field as it is declared. -/
structure FieldDeclaration where
  name : String
  exported : Bool
  typed : Bool
  typeName : Option String
deriving DecidableEq, Inhabited

/-- The declared type after a colon. -/
def declaredType? (cs : List Char) : Option String := do
  let rest := skipBlanks (← char? ':' cs)
  let first ← rest.head?
  guard (isNameStart first)
  return String.ofList (rest.takeWhile fun c => Text.isWord c || c == '.')

/-- The field that a statement declares. -/
def fieldDeclaration? (text : List Char) : Option FieldDeclaration := do
  let body := afterAnnotations text.length text
  let annotations := text.take (text.length - body.length)
  let older := afterExport? body
  let body := older.getD body
  let body := (afterWord? "onready" body).getD body
  let body := (afterWord? "static" body).getD body
  let (name, rest) ← Text.name? (← afterWord? "var" body)
  let rest := trim rest
  return {
    name := String.ofList name
    exported := older.isSome || occursIn "@export".toList annotations
    typed := rest.head? == some ':'
    typeName := declaredType? rest }

/-- The class that a text extends: a name with dots, or a path in quotation marks. -/
def parentClause : Pattern String := fun before cs => do
  guard (isBoundary before cs.head?)
  let rest ← afterWord? "extends" cs
  let quoted (mark : Char) : Option (List Char × List Char) := do
    let body ← char? mark rest
    let tail ← char? mark (body.dropWhile (· != mark))
    return (mark :: body.takeWhile (· != mark) ++ [mark], tail)
  let (parent, rest) ← (run? (fun c => Text.isWord c || c == '.') rest).or
    ((quoted '"').or (quoted '\''))
  return (String.ofList parent, rest)

/-- The name of a function in a text, where its keyword starts the text or follows a blank. -/
def functionClause : Pattern String := fun before cs =>
  let named (cs : List Char) : Option (String × List Char) := do
    let (name, rest) ← Text.name? (← afterWord? "func" cs)
    return (String.ofList name, ← char? '(' (skipBlanks rest))
  let atStart := if before.isNone then named cs else none
  atStart.or ((cs.head?.filter isBlank).bind fun _ => named (cs.drop 1))

/-- The name after a word at the start of a text. -/
def nameAfter? (word : String) (text : List Char) : Option String := do
  let (name, _) ← Text.name? (← afterWord? word text)
  return String.ofList name

/-- Why a script cannot be turned into classes. Lines are counted from one. -/
inductive ScriptError where
  | syntaxError
  | namelessFunction (line : Nat)
  | namelessClass (line : Nat)
  | model (error : ModelError)
deriving Inhabited

/-- The wording of each reason. -/
def ScriptError.message : ScriptError → Except String String
  | syntaxError => return "syntax error"
  | namelessFunction line => return "function without a name at line " ++ toString line
  | namelessClass line => return "class without a name at line " ++ toString line
  | model error => error.message

/-- A method as it is declared. -/
structure MethodOutline where
  name : String
  parameters : List Parameter
  lines : List SourceLine
  startLine : Nat
deriving DecidableEq, Inhabited

/-- A class as it is declared. Fields stand in the order of their first declarations. -/
structure ClassOutline where
  name : String
  parent : Option String := none
  fields : List String := []
  typedFields : List String := []
  exportedFields : List String := []
  fieldTypes : Keyed String := []
  methods : List MethodOutline := []
  signals : List Signal := []
  inner : List ClassOutline := []
deriving Inhabited

namespace ClassOutline

/-- Adds a field. A later declaration of the same name adds to what is known of it. -/
def addField (k : ClassOutline) (pendingExport : Bool) (f : FieldDeclaration) : ClassOutline :=
  { k with
    fields := if k.fields.contains f.name then k.fields else k.fields ++ [f.name]
    exportedFields :=
      if pendingExport || f.exported then k.exportedFields ++ [f.name] else k.exportedFields
    typedFields := if f.typed then k.typedFields ++ [f.name] else k.typedFields
    fieldTypes := match f.typeName with
      | some t => k.fieldTypes.put f.name t
      | none => k.fieldTypes }

/-- Adds the signal that a statement declares, if it declares one. -/
def addSignal (k : ClassOutline) (d : Declaration) : ClassOutline :=
  match nameAfter? "signal" (flatten d.text) with
  | none => k
  | some name =>
    let parameters := d.parameters.filterMap fun p => (Parameter.ofText? p.toList).map (·.name)
    { k with signals := k.signals ++ [⟨name, .text k.name, parameters.map .text⟩] }

end ClassOutline

/-- The name of a function and the row on which the function starts. -/
def functionStart (d : Declaration) : Except ScriptError NameAt :=
  match d.name with
  | some name => .ok name
  | none =>
    match functionClause.first? (flatten d.text) with
    | some name => .ok ⟨name, d.row⟩
    | none => .error (.namelessFunction (d.row + 1))

/-- The name of an inner class. -/
def className (d : Declaration) : Except ScriptError String :=
  match d.name with
  | some name => .ok name.name
  | none =>
    match nameAfter? "class" (skipBlanks d.head.toList) with
    | some name => .ok name
    | none => .error (.namelessClass (d.row + 1))

/-- The method that a statement declares. -/
def methodOutline (rs : List (List Char)) (d : Declaration) : Except ScriptError MethodOutline := do
  let name ← functionStart d
  let indent := indentOf ((rs[name.row]?).getD [])
  return {
    name := name.name
    parameters := d.parameters.filterMap fun p => Parameter.ofText? p.toList
    lines := (d.body.map (bodyLines rs indent)).getD []
    startLine := name.row + 1 }

/-- What has been read of a class, and whether an export waits for its field. -/
structure Progress where
  outline : ClassOutline
  pendingExport : Bool := false

/-- Takes in a statement that declares neither a function nor a class. -/
def Progress.plain (s : Progress) (d : Declaration) : Progress :=
  let text := flatten d.text
  if isAnnotationLine text.length text then
    { s with pendingExport := s.pendingExport || occursIn "@export".toList text }
  else
    match fieldDeclaration? text with
    | some field => ⟨s.outline.addField s.pendingExport field, false⟩
    | none =>
      if startsWith "class_name".toList text || startsWith "extends".toList text then
        match parentClause.first? text with
        | some parent => ⟨{ s.outline with parent := some parent }, false⟩
        | none => ⟨s.outline, false⟩
      else ⟨s.outline.addSignal d, false⟩

mutual

/-- Takes in a statement of a class body. -/
def Progress.member (rs : List (List Char)) (s : Progress) :
    Statement → Except ScriptError Progress
  | .mk d inner =>
    match d.kind with
    | .function => do
      let method ← methodOutline rs d
      return ⟨{ s.outline with methods := s.outline.methods ++ [method] }, false⟩
    | .innerClass => do
      let name ← className d
      let parent := parentClause.first? d.head.toList
      let child ← Progress.members rs ⟨{ name, parent }, false⟩ inner
      return ⟨{ s.outline with inner := s.outline.inner ++ [child.outline] }, false⟩
    | .other => .ok (s.plain d)

/-- Takes in the statements of a class body. -/
def Progress.members (rs : List (List Char)) (s : Progress) :
    List Statement → Except ScriptError Progress
  | [] => .ok s
  | st :: rest => do (← Progress.member rs s st).members rs rest

end

end CodeSmells.Script
