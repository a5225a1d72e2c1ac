import CodeSmells.Script.Syntax

/-!
The grammar of scripts, read by recursive descent. Every reader takes a cursor and gives back the
cursor after what it has read, or nothing when the text does not fit. A reader that may stand at the
end of a statement is told so, because only there a line break counts. A word is a keyword only where
that keyword may stand; everywhere else it is a name.
-/

set_option autoImplicit false

namespace CodeSmells.Script

/-- Where statements stand: in a script or function, or in a class, which holds declarations only. -/
inductive Scope where
  | code
  | members
deriving DecidableEq, Inhabited

namespace Cursor

/-- The cursor after a symbol inside a statement. -/
def symbol? (s : String) (c : Cursor) : Option Cursor :=
  let step := c.next false .nothing
  if step.token = .symbol s then some step.after else none

/-- The cursor after a keyword inside a statement. -/
def keyword? (w : String) (c : Cursor) : Option Cursor :=
  let step := c.next false .nothing
  if step.token = .word w then some step.after else none

/-- The cursor after the end of a block. A bracket that closes, or a comma, ends it as well. -/
def blockEnd? (c : Cursor) : Option Cursor :=
  let step := c.next false .blockEnd
  match step.token with
  | .shallower => some step.after
  | .close => some step.after.leave
  | _ => none

end Cursor

/-- A name with the cursor after it and the row on which it stands. -/
structure Named where
  name : String
  row : Nat
  after : Cursor

/-- Any word inside a statement, as a name. -/
def Cursor.name? (c : Cursor) : Option Named :=
  let step := c.next false .nothing
  match step.token with
  | .word w => some ⟨w, step.start.place.row, step.after⟩
  | _ => none

/-- Operators in front of a value. -/
def isUnary : Token → Bool
  | .symbol s => ["-", "+", "~", "!"].contains s
  | .word w => ["not", "await"].contains w
  | _ => false

/-- Operators between two values. -/
def isBinary : Token → Bool
  | .symbol s => ["||", "&&", "==", "!=", "<", ">", "<=", ">=", "|", "^", "&", "<<", ">>", "+", "-",
      "*", "/", "%", "**"].contains s
  | .word w => ["or", "and", "in", "is", "as"].contains w
  | _ => false

/-- Signs that assign a value. -/
def isAssignment : Token → Bool
  | .symbol s => ["=", "+=", "-=", "*=", "/=", "%=", "**=", "&=", "|=", "^=", "<<=", ">>="].contains s
  | _ => false

/-- Words in front of a function or variable: it belongs to the class, or others may call it. -/
def modifiers : List String :=
  ["static", "remote", "master", "puppet", "remotesync", "mastersync", "puppetsync"]

/-- Words of declarations that may follow annotations on the same line. -/
def annotatable : List String :=
  ["var", "func", "class_name", "class"] ++ modifiers

/-- A statement as far as it has been read: what it declares and what stands inside it. -/
structure Reading where
  kind : StatementKind := .other
  name : Option NameAt := none
  parameters : List String := []
  body : Option Span := none
  inner : List Statement := []
  rest : Cursor

/-- A body as far as it has been read. -/
structure BodyReading where
  span : Span
  inner : List Statement
  rest : Cursor

/-- The statement of a reading that started at the given cursor. -/
def Reading.toStatement (start : Cursor) (r : Reading) : Statement :=
  let text := start.textUpTo r.rest.last
  .mk {
    kind := r.kind
    text
    head := match r.body with
      | some body => start.textUpTo body.start
      | none => text
    row := start.place.row
    name := r.name
    parameters := r.parameters
    body := r.body } r.inner

/-- One or more statements, the rest after them, and whether they need no line end of their own. -/
structure Item where
  statements : List Statement
  closed : Bool
  rest : Cursor

/-- A statement without a body, which the end of its line closes. -/
def Item.plain (start : Cursor) (rest : Cursor) : Item :=
  ⟨[({ rest } : Reading).toStatement start], false, rest⟩

/-- A statement that is closed by its own body. -/
def Item.whole (start : Cursor) (r : Reading) : Item :=
  ⟨[r.toStatement start], true, r.rest⟩

/-- The name after the keyword of a property's accessor, with its sign. -/
def accessorName? (c : Cursor) : Option Cursor := do
  return (← (← c.symbol? "=").name?).after

/-- The other accessor of a property. -/
def otherAccessor (w : String) : String :=
  if w == "set" then "get" else "set"

/-- Whether a word introduces an accessor of a property. -/
def isAccessor (t : Token) : Bool :=
  t = .word "set" || t = .word "get"

/-- The accessors of a property by their names, one or both of them. -/
def accessorNames? (allowed : Allowed) (c : Cursor) : Option Cursor := do
  let first ← c.name?
  let c ← accessorName? first.after
  let step := c.next false allowed
  if step.token = .symbol "," then
    accessorName? (← step.after.keyword? (otherAccessor first.name))
  else some c

/-- The names of the methods that write and read a variable, in the older form. -/
def methodNames? (c : Cursor) : Option Cursor := do
  let step := c.next false .nothing
  if step.token = .symbol "," then return (← step.after.name?).after
  else do
    let c := (← c.name?).after
    let step := c.next false .listEnd
    if step.token = .symbol "," then return (← step.after.name?).after else some c

mutual

/-- An expression. -/
def expression : Nat → Bool → Cursor → Option Cursor
  | 0, _, _ => none
  | fuel + 1, ends, c => do operators fuel ends (← operand fuel ends c)

/-- A value: an expression, or a function without a name of its own. -/
def value : Nat → Bool → Cursor → Option Cursor
  | 0, _, _ => none
  | fuel + 1, ends, c =>
    let step := c.next true .nothing
    if step.token = .word "func" then lambda fuel step.after else expression fuel ends c

/-- What follows a value: operators with further values, or a choice between two values. -/
def operators : Nat → Bool → Cursor → Option Cursor
  | 0, _, _ => none
  | fuel + 1, ends, c =>
    let step := c.next false (.endIf ends)
    if isBinary step.token then do operators fuel ends (← operand fuel ends step.after)
    else if step.token = .word "not" then do
      operators fuel ends (← operand fuel ends (← step.after.keyword? "in"))
    else if step.token = .word "if" then do
      let c ← expression fuel false step.after
      expression fuel ends (← c.keyword? "else")
    else some c

/-- A value with the operators in front of it and the accesses after it. -/
def operand : Nat → Bool → Cursor → Option Cursor
  | 0, _, _ => none
  | fuel + 1, ends, c =>
    let step := c.next true .nothing
    if isUnary step.token then operand fuel ends step.after
    else
      match step.token with
      | .word _ => accesses fuel ends step.after
      | .number => accesses fuel ends step.after
      | .text => accesses fuel ends step.after
      | .label => some step.after
      | .symbol s =>
        if s == "(" then do
          let c ← value fuel false step.after
          accesses fuel ends (← c.symbol? ")")
        else if s == "[" then do accesses fuel ends (← items fuel true "]" step.after)
        else if s == "\x7b" then do accesses fuel ends (← entries fuel step.after)
        else if s == "$" || s == "%" then
          let path := step.after.next true .nothing
          if path.token = .text then accesses fuel ends path.after
          else do accesses fuel ends (← pathSteps fuel ends (← step.after.name?).after)
        else if s == "." then do
          let name ← step.after.name?
          accesses fuel ends (← items fuel false ")" (← name.after.symbol? "("))
        else none
      | _ => none

/-- The further steps of a node's path: names after strokes. -/
def pathSteps : Nat → Bool → Cursor → Option Cursor
  | 0, _, _ => none
  | fuel + 1, ends, c =>
    let step := c.next false (.endIf ends)
    if step.token = .symbol "/" then do pathSteps fuel ends (← step.after.name?).after else some c

/-- Members, calls and elements of a value. -/
def accesses : Nat → Bool → Cursor → Option Cursor
  | 0, _, _ => none
  | fuel + 1, ends, c =>
    let step := c.next false (.endIf ends)
    if step.token = .symbol "." then do accesses fuel ends (← step.after.name?).after
    else if step.token = .symbol "(" then do accesses fuel ends (← items fuel false ")" step.after)
    else if step.token = .symbol "[" then do accesses fuel ends (← elements fuel step.after)
    else some c

/-- At least one value up to a closing bracket. -/
def elements : Nat → Cursor → Option Cursor
  | 0, _ => none
  | fuel + 1, c =>
    if (c.symbol? "]").isSome then none else items fuel false "]" c

/-- Values with commas between them, up to a closing bracket; patterns among them if the flag says
so. -/
def items : Nat → Bool → String → Cursor → Option Cursor
  | 0, _, _, _ => none
  | fuel + 1, patterns, closing, c =>
    match c.symbol? closing with
    | some rest => some rest
    | none => do
      let c ← if patterns then pattern fuel c else value fuel false c
      match c.symbol? "," with
      | some rest => items fuel patterns closing rest
      | none => c.symbol? closing

/-- A value, a name for one, or the sign for all that follow. -/
def pattern : Nat → Cursor → Option Cursor
  | 0, _ => none
  | fuel + 1, c =>
    let step := c.next true .nothing
    if step.token = .symbol ".." then some step.after
    else if step.token = .word "var" then step.after.name?.map (·.after)
    else value fuel false c

/-- Keys with or without values, with commas between them, up to a closing brace. -/
def entries : Nat → Cursor → Option Cursor
  | 0, _ => none
  | fuel + 1, c =>
    match c.symbol? "\x7d" with
    | some rest => some rest
    | none => do
      let c ← pattern fuel c
      let c ← match (c.symbol? ":").or (c.symbol? "=") with
        | some rest => pattern fuel rest
        | none => some c
      match c.symbol? "," with
      | some rest => entries fuel rest
      | none => c.symbol? "\x7d"

/-- A type: a name with further names after dots and types in brackets. -/
def typeName : Nat → Bool → Cursor → Option Cursor
  | 0, _, _ => none
  | fuel + 1, ends, c =>
    let step := c.next true .nothing
    match step.token with
    | .word _ => if isUnary step.token then none else typeTail fuel ends step.after
    | _ => none

/-- What follows the first name of a type. -/
def typeTail : Nat → Bool → Cursor → Option Cursor
  | 0, _, _ => none
  | fuel + 1, ends, c =>
    let step := c.next false (.endIf ends)
    if step.token = .symbol "." then do
      let c := (← step.after.name?).after
      let call := c.next false (.endIf ends)
      if call.token = .symbol "(" then do typeTail fuel ends (← items fuel false ")" call.after)
      else typeTail fuel ends c
    else if step.token = .symbol "[" then do typeTail fuel ends (← elements fuel step.after)
    else some c

/-- What a class extends: a script or a type. -/
def parentName : Nat → Bool → Cursor → Option Cursor
  | 0, _, _ => none
  | fuel + 1, ends, c =>
    let step := c.next true .nothing
    if step.token = .text then typeTail fuel ends step.after else typeName fuel ends c

/-- The type of what a function returns, if it is given. -/
def returnType : Nat → Bool → Cursor → Option Cursor
  | 0, _, _ => none
  | fuel + 1, ends, c =>
    let step := c.next false (.endIf ends)
    if step.token = .symbol "->" then typeName fuel ends step.after else some c

/-- A function inside an expression, after its keyword. -/
def lambda : Nat → Cursor → Option Cursor
  | 0, _ => none
  | fuel + 1, c => do
    let c := (c.name?.map (·.after)).getD c
    let (_, c) ← parameters fuel (← c.symbol? "(")
    return (← body fuel .code (← returnType fuel false c)).rest

/-- Parameters up to a closing parenthesis, each with its text. -/
def parameters : Nat → Cursor → Option (List String × Cursor)
  | 0, _ => none
  | fuel + 1, c =>
    let step := c.next false .nothing
    if step.token = .symbol ")" then some ([], step.after)
    else do
      let name ← (if step.token = .symbol "..." then step.after else c).name?
      let c ← typedDefault fuel name.after
      let text := step.start.textUpTo c.last
      match c.symbol? "," with
      | some rest => do
        let (texts, c) ← parameters fuel rest
        return (text :: texts, c)
      | none => return ([text], ← c.symbol? ")")

/-- The type and the default of a parameter, after its name. -/
def typedDefault : Nat → Cursor → Option Cursor
  | 0, _ => none
  | fuel + 1, c =>
    let step := c.next false .nothing
    if step.token = .symbol ":=" || step.token = .symbol "=" then value fuel false step.after
    else if step.token = .symbol ":" then
      match step.after.symbol? "=" with
      | some rest => value fuel false rest
      | none => do
        let c ← typeName fuel false step.after
        match c.symbol? "=" with
        | some rest => value fuel false rest
        | none => some c
    else some c

/-- A body: a colon, then a deeper block, or statements on the same line, or nothing. A class has
one statement on the line of its header. -/
def body : Nat → Scope → Cursor → Option BodyReading
  | 0, _, _ => none
  | fuel + 1, scope, c => do
    let c ← c.symbol? ":"
    let step := c.next true .body
    let start := step.start.place
    match step.token with
    | .deeper => do
      let (inner, rest) ← block fuel scope step.after
      return ⟨⟨start, rest.last⟩, inner, rest⟩
    | .lineEnd => return ⟨⟨start, start⟩, [], step.after⟩
    | _ => do
      let (inner, rest) ← line fuel scope (scope == .code) step.start
      return ⟨⟨start, rest.last⟩, inner, rest⟩

/-- The statements of a block. -/
def block : Nat → Scope → Cursor → Option (List Statement × Cursor)
  | 0, _, _ => none
  | fuel + 1, scope, c =>
    let step := c.next true .blockEnd
    match step.token with
    | .shallower => some ([], step.after)
    | .close => some ([], step.after.leave)
    | .finish => none
    | _ => do
      let (first, c) ← line fuel scope false step.start
      let (later, c) ← block fuel scope c
      return (first ++ later, c)

/-- The statements of a line, up to its end. -/
def line : Nat → Scope → Bool → Cursor → Option (List Statement × Cursor)
  | 0, _, _, _ => none
  | fuel + 1, scope, simple, c => do
    let first ← item fuel scope simple c
    if first.closed then return (first.statements, first.rest)
    else
      let step := first.rest.next false .statementEnd
      match step.token with
      | .lineEnd => return (first.statements, step.after)
      | .close => return (first.statements, step.after)
      | .symbol s =>
        if s == ";" then do
          let (later, c) ← furtherStatements fuel scope step.after
          return (first.statements ++ later, c)
        else none
      | _ => none

/-- The statements after a semicolon, which may be followed by others or by nothing. -/
def furtherStatements : Nat → Scope → Cursor → Option (List Statement × Cursor)
  | 0, _, _ => none
  | fuel + 1, scope, c =>
    let step := c.next true .statementEnd
    match step.token with
    | .lineEnd => some ([], step.after)
    | .close => some ([], step.after)
    | t => if t = .symbol ";" then furtherStatements fuel scope step.after
      else line fuel scope true step.start

/-- A statement. On a line with others it has no body. -/
def item : Nat → Scope → Bool → Cursor → Option Item
  | 0, _, _, _ => none
  | fuel + 1, scope, simple, c =>
    let step := c.next true .nothing
    let start := step.start
    match step.token with
    | .word w =>
      if w == "var" || w == "class_name" || modifiers.contains w ||
          (!simple && (w == "func" || w == "class")) then
        declaration fuel simple start w step.after
      else if w == "const" then (constant fuel step.after).map (.plain start)
      else if w == "signal" then (signal fuel step.after).map fun r =>
        ⟨[r.toStatement start], false, r.rest⟩
      else if w == "export" then (exported fuel step.after).map (.plain start)
      else if w == "onready" then do
        return .plain start (← declaredVariable fuel (← step.after.keyword? "var"))
      else if w == "extends" then (parentName fuel true step.after).map (.plain start)
      else if w == "pass" then some (.plain start step.after)
      else if !simple && w == "enum" then
        (enumeration fuel step.after).map fun rest => .whole start { rest }
      else if scope == .members then none
      else if !simple && ["if", "while", "for", "match"].contains w then
        (compound fuel w step.after).map (.whole start)
      else if ["break", "continue", "breakpoint"].contains w then some (.plain start step.after)
      else if w == "return" then (returned fuel step.after).map (.plain start)
      else (assignment fuel start).map (.plain start)
    | t =>
      if t = .symbol "@" then annotated fuel scope simple start [] start
      else if scope == .members then none
      else (assignment fuel start).map (.plain start)

/-- A declaration that may follow annotations, after its keyword. -/
def declaration : Nat → Bool → Cursor → String → Cursor → Option Item
  | 0, _, _, _, _ => none
  | fuel + 1, simple, start, w, c =>
    if w == "var" then (declaredVariable fuel c).map (.plain start)
    else if w == "class_name" then (scriptNaming fuel c).map (.plain start)
    else if modifiers.contains w then do
      let next ← c.name?
      if next.name == "var" then (declaredVariable fuel next.after).map (.plain start)
      else if next.name == "func" && !simple then (function fuel next.after).map (.whole start)
      else none
    else if simple then none
    else if w == "func" then (function fuel c).map (.whole start)
    else (innerClass fuel c).map (.whole start)

/-- Annotations from the cursor on, after earlier ones, with the declaration that they belong to.
In a script or function annotations may stand alone on their line, each as a statement; in a class
the declaration may follow on a later line. -/
def annotated : Nat → Scope → Bool → Cursor → List Statement → Cursor → Option Item
  | 0, _, _, _, _, _ => none
  | fuel + 1, scope, simple, start, notes, c => do
    let name ← (← c.symbol? "@").name?
    let ends := scope == .code
    let step := name.after.next false (.endIf ends)
    let rest ← if step.token = .symbol "(" then items fuel false ")" step.after
      else some name.after
    let notes := notes ++ [({ rest } : Reading).toStatement c]
    let step := rest.next true (.endIf ends)
    match step.token with
    | .word w =>
      if annotatable.contains w then declaration fuel simple start w step.after else none
    | .symbol s =>
      if s == "@" then annotated fuel scope simple start notes step.start
      else if s == ";" && ends then some ⟨notes, false, rest⟩
      else none
    | .lineEnd => some ⟨notes, false, rest⟩
    | .close => some ⟨notes, false, rest⟩
    | _ => none

/-- An expression, or the assignment of a value to one. -/
def assignment : Nat → Cursor → Option Cursor
  | 0, _ => none
  | fuel + 1, c => do
    let c ← expression fuel true c
    let step := c.next false .statementEnd
    if isAssignment step.token then value fuel true step.after else some c

/-- What a function returns, after the keyword. -/
def returned : Nat → Cursor → Option Cursor
  | 0, _ => none
  | fuel + 1, c =>
    let step := c.next true .statementEnd
    match step.token with
    | .lineEnd => some c
    | .close => some c
    | t => if t = .symbol ";" then some c else value fuel true c

/-- The name of the script's class with its icon and its parent, after the keyword. -/
def scriptNaming : Nat → Cursor → Option Cursor
  | 0, _ => none
  | fuel + 1, c => do
    let c := (← c.name?).after
    let step := c.next false .listEnd
    let c ← if step.token = .symbol "," then
        let icon := step.after.next true .nothing
        if icon.token = .text then some icon.after else none
      else some c
    let step := c.next false .statementEnd
    if step.token = .word "extends" then parentName fuel true step.after else some c

/-- A constant, after its keyword. -/
def constant : Nat → Cursor → Option Cursor
  | 0, _ => none
  | fuel + 1, c => do
    let step := (← c.name?).after.next false .nothing
    if step.token = .symbol ":=" || step.token = .symbol "=" then value fuel true step.after
    else if step.token = .symbol ":" then
      match step.after.symbol? "=" with
      | some rest => value fuel true rest
      | none => do value fuel true (← (← typeName fuel false step.after).symbol? "=")
    else none

/-- A signal with its parameters, after its keyword. -/
def signal : Nat → Cursor → Option Reading
  | 0, _ => none
  | fuel + 1, c => do
    let c := (← c.name?).after
    let step := c.next false .statementEnd
    if step.token = .symbol "(" then do
      let (parameters, rest) ← parameters fuel step.after
      return { parameters, rest }
    else return { rest := c }

/-- An enumeration, after its keyword. -/
def enumeration : Nat → Cursor → Option Cursor
  | 0, _ => none
  | fuel + 1, c => do
    enumerators fuel (← ((c.name?.map (·.after)).getD c).symbol? "\x7b")

/-- The names of an enumeration with their values, at least one, up to a closing brace. -/
def enumerators : Nat → Cursor → Option Cursor
  | 0, _ => none
  | fuel + 1, c => do
    let c := (← c.name?).after
    let c ← match c.symbol? "=" with
      | some rest => expression fuel false rest
      | none => some c
    match c.symbol? "," with
    | some rest =>
      match rest.symbol? "\x7d" with
      | some rest => some rest
      | none => enumerators fuel rest
    | none => c.symbol? "\x7d"

/-- A variable in the older form of an export, after its keyword. -/
def exported : Nat → Cursor → Option Cursor
  | 0, _ => none
  | fuel + 1, c => do
    let c ← match c.symbol? "(" with
      | some rest => items fuel false ")" rest
      | none => some c
    declaredVariable fuel (← ((c.keyword? "onready").getD c).keyword? "var")

/-- A variable after its keyword: name, type, default and accessors. -/
def declaredVariable : Nat → Cursor → Option Cursor
  | 0, _ => none
  | fuel + 1, c => do
    let c := (← c.name?).after
    let step := c.next false .statementEnd
    if step.token = .symbol ":=" || step.token = .symbol "=" then
      property fuel (← value fuel true step.after)
    else if step.token = .symbol ":" then
      let first := step.after.next true .block
      if first.token = .deeper || isAccessor first.token then property fuel c
      else if first.token = .symbol "=" then property fuel (← value fuel true first.after)
      else do
        let c ← typeName fuel true step.after
        let step := c.next false .statementEnd
        if step.token = .symbol "=" then property fuel (← value fuel true step.after)
        else property fuel c
    else property fuel c

/-- The accessors of a variable, if it has any. -/
def property : Nat → Cursor → Option Cursor
  | 0, _ => none
  | fuel + 1, c =>
    let step := c.next false .statementEnd
    if step.token = .word "setget" then methodNames? step.after
    else if step.token = .symbol ":" then
      let first := step.after.next true .block
      if first.token = .deeper then accessors fuel first.after
      else if isAccessor first.token then accessorNames? .listEnd step.after
      else none
    else some c

/-- A block of accessors, given by names or by bodies. -/
def accessors : Nat → Cursor → Option Cursor
  | 0, _ => none
  | fuel + 1, c => do
    let first ← c.name?
    if !isAccessor (.word first.name) then none
    else if (first.after.symbol? "=").isSome then (← accessorNames? .nothing c).blockEnd?
    else do
      let c ← accessor fuel first.name first.after
      let step := c.next false .blockEnd
      if step.token = .word (otherAccessor first.name) then
        (← accessor fuel (otherAccessor first.name) step.after).blockEnd?
      else c.blockEnd?

/-- An accessor with a body, after its keyword. What sets the variable has a parameter. -/
def accessor : Nat → String → Cursor → Option Cursor
  | 0, _, _ => none
  | fuel + 1, w, c =>
    match c.symbol? "(" with
    | some rest => do
      let (_, c) ← parameters fuel rest
      return (← body fuel .code c).rest
    | none => if w == "get" then (body fuel .code c).map (·.rest) else none

/-- A function after its keyword. Only a constructor needs a body. It has no name of its own, and may
hand arguments to the one it extends. -/
def function : Nat → Cursor → Option Reading
  | 0, _ => none
  | fuel + 1, c => do
    let named := c.name?
    let (parameters, c) ← parameters fuel (← ((named.map (·.after)).getD c).symbol? "(")
    if named.any (·.name == "_init") then do
      let c ← match c.symbol? "." with
        | some rest => items fuel false ")" (← rest.symbol? "(")
        | none => some c
      let b ← body fuel .code (← returnType fuel false c)
      return { kind := .function, parameters, body := b.span, inner := b.inner, rest := b.rest }
    else do
      let name := named.map fun n => ⟨n.name, n.row⟩
      let c ← returnType fuel true c
      let step := c.next false .statementEnd
      match step.token with
      | .lineEnd => return { kind := .function, name, parameters, rest := step.after }
      | .close => return { kind := .function, name, parameters, rest := step.after }
      | _ => do
        let b ← body fuel .code c
        return { kind := .function, name, parameters, body := b.span, inner := b.inner,
                 rest := b.rest }

/-- A class inside a script, after its keyword. -/
def innerClass : Nat → Cursor → Option Reading
  | 0, _ => none
  | fuel + 1, c => do
    let named ← c.name?
    let c ← match named.after.keyword? "extends" with
      | some rest => parentName fuel false rest
      | none => some named.after
    let b ← body fuel .members c
    return { kind := .innerClass, name := some ⟨named.name, named.row⟩, body := b.span,
             inner := b.inner, rest := b.rest }

/-- A statement with blocks of its own, after its keyword. -/
def compound : Nat → String → Cursor → Option Reading
  | 0, _, _ => none
  | fuel + 1, w, c =>
    if w == "if" then do
      let b ← body fuel .code (← expression fuel false c)
      let (later, rest) ← branches fuel b.rest
      return { inner := b.inner ++ later, rest }
    else if w == "while" then do
      let b ← body fuel .code (← expression fuel false c)
      return { inner := b.inner, rest := b.rest }
    else if w == "for" then do
      let c := (← c.name?).after
      let c ← match c.symbol? ":" with
        | some rest => typeName fuel false rest
        | none => some c
      let b ← body fuel .code (← expression fuel false (← c.keyword? "in"))
      return { inner := b.inner, rest := b.rest }
    else do
      let c ← (← expression fuel false c).symbol? ":"
      let step := c.next true .block
      if step.token = .deeper then do
        let (inner, rest) ← arms fuel step.after
        return { inner, rest }
      else none

/-- The further branches of a conditional. -/
def branches : Nat → Cursor → Option (List Statement × Cursor)
  | 0, _ => none
  | fuel + 1, c =>
    let step := c.next true .blockEnd
    if step.token = .word "elif" then do
      let b ← body fuel .code (← expression fuel false step.after)
      let (later, c) ← branches fuel b.rest
      return (b.inner ++ later, c)
    else if step.token = .word "else" then do
      let b ← body fuel .code step.after
      return (b.inner, b.rest)
    else some ([], c)

/-- The arms of a match, at least one, up to the end of its block. -/
def arms : Nat → Cursor → Option (List Statement × Cursor)
  | 0, _ => none
  | fuel + 1, c => do
    let c ← patterns fuel c
    let c ← match c.keyword? "when" with
      | some rest => expression fuel false rest
      | none => some c
    let b ← body fuel .code c
    match b.rest.blockEnd? with
    | some c => return (b.inner, c)
    | none => do
      let (later, c) ← arms fuel b.rest
      return (b.inner ++ later, c)

/-- Patterns with commas between them. -/
def patterns : Nat → Cursor → Option Cursor
  | 0, _ => none
  | fuel + 1, c => do
    let step := c.next true .nothing
    let c ← if step.token = .word "var" then step.after.name?.map (·.after)
      else expression fuel false c
    match c.symbol? "," with
    | some rest => patterns fuel rest
    | none => some c

end

end CodeSmells.Script
