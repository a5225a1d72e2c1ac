import CodeSmells.Model.Method
import CodeSmells.Text.Literal
import CodeSmells.Text.Mention

/-!
Calls and field accesses in the body of a method, read off its code lines one by one. A call on a
variable of a declared type becomes a call on that type, a bare call of an own method becomes a call
on the owner, and accesses are kept for own fields and for classes of the project.
-/

set_option autoImplicit false

namespace CodeSmells.Edges

open Text

/-- Words that look like a call when a parenthesis follows them. -/
def keywords : List String :=
  ["if", "elif", "else", "for", "while", "match", "return", "and", "or", "not", "in", "is", "as",
   "func", "var", "const", "await", "yield", "assert", "self", "super", "signal", "class",
   "extends", "pass", "break", "continue", "breakpoint"]

/-- Functions that every script can call. -/
def builtinFunctions : List String :=
  ["print", "prints", "printt", "printerr", "print_debug", "push_error", "push_warning", "str",
   "int", "float", "bool", "len", "range", "preload", "load", "typeof", "abs", "min", "max",
   "clamp", "clampf", "clampi", "lerp", "lerpf", "sqrt", "pow", "floor", "ceil", "round", "sign",
   "randi", "randf", "randi_range", "randf_range", "randomize", "is_instance_valid", "weakref",
   "funcref", "deg_to_rad", "rad_to_deg", "deg2rad", "rad2deg", "sin", "cos", "tan", "atan2",
   "fmod", "posmod", "wrapf", "wrapi", "hash", "instance_from_id", "str_to_var", "var_to_str",
   "get_node", "get_tree", "get_parent", "emit_signal", "has_method", "call_deferred",
   "queue_free", "connect"]

/-- Objects of the engine itself. -/
def engineSingletons : List String :=
  ["Input", "OS", "Engine", "Time", "ProjectSettings", "ResourceLoader", "ResourceSaver",
   "Performance", "DisplayServer", "AudioServer", "PhysicsServer2D", "PhysicsServer3D",
   "RenderingServer", "VisualServer", "ClassDB", "JSON", "InputMap", "TranslationServer", "IP",
   "Marshalls", "JavaClassWrapper", "JavaScriptBridge", "NavigationServer2D",
   "NavigationServer3D", "ThemeDB", "EditorInterface"]

/-- A name and the blanks after it, up to an opening parenthesis. -/
def calledName? (cs : List Char) : Option (String × List Char) := do
  let (name, rest) ← name? cs
  let rest ← char? '(' (skipBlanks rest)
  return (String.ofList name, rest)

/-- A dot with blanks around it. -/
def spacedDot? (cs : List Char) : Option (List Char) :=
  (char? '.' (skipBlanks cs)).map skipBlanks

/-- A call on a given word, which stands at the start of a word. -/
def callOn (word : String) : Pattern String := fun before cs => do
  guard (isBoundary before cs.head?)
  let rest ← after? word.toList cs
  calledName? (← spacedDot? rest)

/-- A call of the parent's method of the same name. -/
def bareSuperCall : Pattern Unit := fun before cs => do
  guard (isBoundary before cs.head?)
  let rest ← after? "super".toList cs
  return ((), ← char? '(' (skipBlanks rest))

/-- A call after a dot with nothing in front of the dot. -/
def dottedCall : Pattern String := fun before cs =>
  let after (cs : List Char) := (char? '.' cs).bind calledName?
  match cs with
  | [] => none
  | c :: rest =>
    let atStart := if before.isNone then after (c :: rest) else none
    atStart.or (if isBlank c || ['(', '=', ',', '['].contains c then after rest else none)

/-- A call on a plain name. -/
def qualifiedCall : Pattern (String × String) := fun before cs => do
  guard (standsFree ['.', '$'] before)
  let (qualifier, rest) ← name? cs
  let (target, rest) ← calledName? (← spacedDot? rest)
  return ((String.ofList qualifier, target), rest)

/-- A call of a plain name. -/
def bareCall : Pattern String := fun before cs => do
  guard (standsFree ['.', '$'] before)
  calledName? cs

/-- A member of a plain name that is not called. -/
def qualifiedMember : Pattern (String × String) := fun before cs => do
  guard (standsFree ['.', '$'] before)
  let (qualifier, rest) ← name? cs
  let (member, rest) ← name? (← char? '.' rest)
  guard (notCalled rest)
  return ((String.ofList qualifier, String.ofList member), rest)

/-- A text in quotation marks without quotation marks inside. -/
def quotedText? (cs : List Char) : Option (List Char × List Char) := do
  let rest ← quoteMark? cs
  let tail ← quoteMark? (rest.dropWhile notQuoteMark)
  return (rest.takeWhile notQuoteMark, tail)

/-- A comma with blanks around it. -/
def spacedComma? (cs : List Char) : Option (List Char) :=
  (char? ',' (skipBlanks cs)).map skipBlanks

/-- A connection of a signal, given by name, to a method of the same object, given by name. -/
def namedConnection : Pattern String := fun _ cs => do
  let rest ← after? "connect".toList cs
  let rest ← char? '(' (skipBlanks rest)
  let (_, rest) ← quotedText? (skipBlanks rest)
  let rest ← after? "self".toList (← spacedComma? rest)
  let rest ← quoteMark? (← spacedComma? rest)
  let (target, rest) ← run? isWord rest
  return (String.ofList target, ← quoteMark? rest)

/-- A connection of a signal to a method of the same object. -/
def directConnection : Pattern String := fun _ cs => do
  let rest ← after? ".connect".toList cs
  let rest := skipBlanks (← char? '(' (skipBlanks rest))
  let (target, rest) ← name? ((after? "self.".toList rest).getD rest)
  return (String.ofList target, ← oneOf? [',', ')'] (skipBlanks rest))

/-- What the names in a body may refer to. -/
structure Context where
  owner : String
  method : String
  methods : List String
  fields : List String
  /-- The declared types of variables. -/
  aliases : List (String × String)
  /-- The classes of the project, when they are known. -/
  knownClasses : Option (List String)

namespace Context

variable (c : Context)

/-- The declared type of a variable. -/
def typeOf? (name : String) : Option String :=
  (c.aliases.find? fun a => a.1 == name).map (·.2)

/-- A method of the owner. -/
def ownCall (target : String) : String :=
  c.owner ++ "." ++ target

/-- The call that a call on a name stands for; none on the object itself and on the engine. -/
def qualifiedCallee? (call : String × String) : Option String :=
  if call.1 == "self" || call.1 == "super" || engineSingletons.contains call.1 then none
  else some ((c.typeOf? call.1).getD call.1 ++ "." ++ call.2)

/-- The call that a call of a plain name stands for; none for keywords, general functions and
constructors. -/
def bareCallee? (target : String) : Option String :=
  if keywords.contains target || builtinFunctions.contains target || startsUpper target then none
  else some (if c.methods.contains target then c.ownCall target else target)

/-- What the code of a line calls. -/
def codeCallees (code : List Char) : List String :=
  ((directConnection.findAll code).filter c.methods.contains).map c.ownCall ++
    ((callOn "super").findAll code ++ dottedCall.findAll code).map ("super." ++ ·) ++
    (if bareSuperCall.occurs code then ["super." ++ c.method] else []) ++
    ((callOn "self").findAll code).map c.ownCall ++
    (qualifiedCall.findAll code).filterMap c.qualifiedCallee? ++
    (bareCall.findAll code).filterMap c.bareCallee?

/-- What a line calls. Connections by name stand in literals, which the code of a line lacks. -/
def callees (line : SourceLine) : List String :=
  if line.isCode then
    (namedConnection.findAll line.content).map c.ownCall ++ c.codeCallees (codeOf line.content)
  else []

/-- The class whose field a member may be: the declared type, or a name with a capital. -/
def memberOwner? (qualifier : String) : Option String :=
  match c.typeOf? qualifier with
  | some t => if t == "" then capital else some t
  | none => capital
where
  capital := if startsUpper qualifier then some qualifier else none

/-- Whether accesses to the fields of a class are kept. -/
def isTracked (name : String) : Bool :=
  !engineSingletons.contains name &&
    match c.knownClasses with
    | none => true
    | some known => known.contains name || name == c.owner

/-- The access that a member of a name stands for. Constants, in capitals throughout, are none. -/
def memberAccess? (member : String × String) : Option (String × String) :=
  if member.1 == "self" || member.1 == "super" || allUpper member.2.toList then none
  else ((c.memberOwner? member.1).filter c.isTracked).map (·, member.2)

/-- The fields that a line accesses, each with the class that owns it. -/
def touched (line : SourceLine) : List (String × String) :=
  if line.isCode then
    let code := codeOf line.content
    (c.fields.filter fun f => (fieldMention f.toList notCalled).occurs code).map (c.owner, ·) ++
      (qualifiedMember.findAll code).filterMap c.memberAccess?
  else []

/-- The calls of a line as edges. -/
def lineCalls (line : SourceLine) : Except ModelError (List CallEdge) :=
  (c.callees line).mapM (CallEdge.make c.owner)

/-- The accesses of a line as edges. -/
def lineAccesses (line : SourceLine) : Except ModelError (List FieldAccess) :=
  (c.touched line).mapM fun (owner, field) => FieldAccess.make owner field

/-- The calls and accesses of a body, each a set. -/
def edges (lines : List SourceLine) : Except ModelError (List CallEdge × List FieldAccess) := do
  let found ← lines.mapM fun line => return (← c.lineCalls line, ← c.lineAccesses line)
  return (sortedSet (found.flatMap (·.1)), sortedSet (found.flatMap (·.2)))

end Context

end CodeSmells.Edges
