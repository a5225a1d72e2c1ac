import CodeSmells.Config.Toml.Number
import CodeSmells.Config.Toml.Text

/-!
Reading TOML documents. A table or key may be given once only: inline tables and arrays cannot be
added to, a table header cannot be repeated, and a dotted key cannot reach into a table that has a
header of its own.
-/

set_option autoImplicit false

namespace CodeSmells.Toml

/-- A comment without its end of line; control characters in it are malformed. -/
def skipComment? (cs : List Char) : Option (List Char) :=
  match cs with
  | '#' :: rest =>
    if (rest.takeWhile (· != '\n')).any isIllegal then none else some (rest.dropWhile (· != '\n'))
  | _ => some cs

/-- Blanks, line ends and comments inside an array; the fuel bounds the number of comments. -/
def skipArraySpace? : Nat → List Char → Option (List Char)
  | 0, _ => none
  | fuel + 1, cs =>
    match cs.dropWhile fun c => isSpace c || c == '\n' with
    | '#' :: rest => (skipComment? ('#' :: rest)).bind (skipArraySpace? fuel)
    | rest => some rest

/-- Blanks, line ends and comments inside an array. -/
def arraySpace? (cs : List Char) : Option (List Char) :=
  skipArraySpace? (cs.length + 1) cs

/-- What a mark on a key forbids: adding to it, or opening it again as a table. -/
inductive Ban where
  | frozen
  | opened
deriving DecidableEq, Inhabited

/-- A ban on a key, and possibly on all keys below it. -/
structure Mark where
  path : List String
  ban : Ban
  below : Bool
deriving DecidableEq, Inhabited

/-- Whether a ban holds for a key. -/
def isBanned (marks : List Mark) (path : List String) (ban : Ban) : Bool :=
  marks.any fun m => m.ban == ban && (m.path == path || (m.below && m.path.isPrefixOf path))

/-- Removes all marks of a key and of the keys below it. -/
def clearMarks (path : List String) (marks : List Mark) : List Mark :=
  marks.filter fun m => !path.isPrefixOf m.path

/-- Changes the table at a path, which is created where it is missing. Arrays of tables stand for
their last table if `throughLists` is set. -/
def updateTable (throughLists : Bool) (change : Entries → Option Entries) :
    List String → Entries → Option Entries
  | [], es => change es
  | k :: ks, es =>
    match Entries.get? k es with
    | none => (updateTable throughLists change ks []).map fun sub => Entries.put k (.table sub) es
    | some (.table sub) =>
      (updateTable throughLists change ks sub).map fun sub => Entries.put k (.table sub) es
    | some (.list items) =>
      match throughLists, items.reverse with
      | true, .table sub :: earlier =>
        (updateTable throughLists change ks sub).map fun sub =>
          Entries.put k (.list (earlier.reverse ++ [.table sub])) es
      | _, _ => none
    | some _ => none

/-- Adds a key that is not there yet. -/
def addNew (key : String) (v : Value) (es : Entries) : Option Entries :=
  if Entries.has key es then none else some (Entries.put key v es)

/-- Whether a value is a table or an array. -/
def isContainer : Value → Bool
  | .table _ => true
  | .list _ => true
  | _ => false

/-- Adds an entry to an inline table. -/
def addInline (marks : List Mark) (path : List String) (v : Value) (es : Entries) :
    Option Entries :=
  if isBanned marks path .frozen then none
  else updateTable false (addNew (path.getLast?.getD "") v) path.dropLast es

mutual

/-- A value at the start of the text. The fuel bounds the nesting and the number of items. -/
def value : Nat → List Char → Except Fault (Value × List Char)
  | 0, _ => .error .malformed
  | fuel + 1, cs =>
    match cs with
    | '"' :: _ => required ((string? cs).map fun (s, rest) => (.text (String.ofList s), rest))
    | '\'' :: _ => required ((string? cs).map fun (s, rest) => (.text (String.ofList s), rest))
    | 't' :: 'r' :: 'u' :: 'e' :: rest => .ok (.flag true, rest)
    | 'f' :: 'a' :: 'l' :: 's' :: 'e' :: rest => .ok (.flag false, rest)
    | '[' :: rest =>
      match arraySpace? rest with
      | none => .error .malformed
      | some (']' :: later) => .ok (.list [], later)
      | some items => (arrayItems fuel items).map fun (vs, later) => (.list vs, later)
    | '\x7b' :: rest =>
      match skipSpaces rest with
      | '\x7d' :: later => .ok (.table [], later)
      | items => inlineItems fuel [] [] items
    | _ => scalarValue cs

/-- The items of an array up to its closing bracket. -/
def arrayItems : Nat → List Char → Except Fault (List Value × List Char)
  | 0, _ => .error .malformed
  | fuel + 1, cs => do
    let (v, rest) ← value fuel cs
    match arraySpace? rest with
    | some (']' :: later) => return ([v], later)
    | some (',' :: later) =>
      match arraySpace? later with
      | some (']' :: later) => return ([v], later)
      | some items =>
        let (vs, later) ← arrayItems fuel items
        return (v :: vs, later)
      | none => throw .malformed
    | _ => throw .malformed

/-- The entries of an inline table up to its closing brace, added to those before. -/
def inlineItems : Nat → List Mark → Entries → List Char → Except Fault (Value × List Char)
  | 0, _, _, _ => .error .malformed
  | fuel + 1, marks, es, cs =>
    match key? cs with
    | some (path, '=' :: rest) => do
      let (v, rest) ← value fuel (skipSpaces rest)
      match addInline marks path v es, skipSpaces rest with
      | some es, '\x7d' :: later => return (.table es, later)
      | some es, ',' :: later =>
        let marks := if isContainer v then ⟨path, .frozen, true⟩ :: marks else marks
        inlineItems fuel marks es (skipSpaces later)
      | _, _ => throw .malformed
    | _ => .error .malformed

end

/-- A document under construction: its entries, the marks on its keys, the marks that take effect at
the next header, and the path of the current header. -/
structure State where
  entries : Entries := []
  marks : List Mark := []
  pending : List Mark := []
  header : List String := []

namespace State

/-- Lets the pending marks take effect. -/
def settle (s : State) : State :=
  { s with marks := s.pending ++ s.marks, pending := [] }

/-- Opens a table. -/
def openTable? (s : State) (path : List String) : Option State :=
  if isBanned s.marks path .opened || isBanned s.marks path .frozen then none
  else
    (updateTable true some path s.entries).map fun es =>
      { s with entries := es, marks := ⟨path, .opened, false⟩ :: s.marks, header := path }

/-- Opens a further table of an array of tables. -/
def openItem? (s : State) (path : List String) : Option State :=
  if isBanned s.marks path .frozen then none
  else
    let append (es : Entries) : Option Entries :=
      let key := path.getLast?.getD ""
      match Entries.get? key es with
      | none => some (Entries.put key (.list [.table []]) es)
      | some (.list items) => some (Entries.put key (.list (items ++ [.table []])) es)
      | some _ => none
    (updateTable true append path.dropLast s.entries).map fun es =>
      { s with
        entries := es
        marks := ⟨path, .opened, false⟩ :: clearMarks path s.marks
        header := path }

/-- The proper leading parts of a dotted key, below the current header. -/
def innerPaths (s : State) (key : List String) : List (List String) :=
  (List.range (key.length - 1)).map fun i => s.header ++ key.take (i + 1)

/-- Adds an entry to the current table. -/
def addEntry? (s : State) (key : List String) (v : Value) : Option State :=
  let inner := s.innerPaths key
  let parent := s.header ++ key.dropLast
  if inner.any fun p => isBanned s.marks p .opened then none
  else if isBanned s.marks parent .frozen then none
  else
    (updateTable true (addNew (key.getLast?.getD "") v) parent s.entries).map fun es =>
      { s with
        entries := es
        marks := if isContainer v then ⟨s.header ++ key, .frozen, true⟩ :: s.marks else s.marks
        pending := inner.map (fun p => ⟨p, .opened, false⟩) ++ s.pending }

end State

/-- One statement: an entry or a table header, and the rest of the text. -/
def statement (s : State) (cs : List Char) : Except Fault (State × List Char) :=
  match cs with
  | '[' :: '[' :: rest =>
    match key? (skipSpaces rest) with
    | some (path, ']' :: ']' :: later) => return (← required (s.settle.openItem? path), later)
    | _ => .error .malformed
  | '[' :: rest =>
    match key? (skipSpaces rest) with
    | some (path, ']' :: later) => return (← required (s.settle.openTable? path), later)
    | _ => .error .malformed
  | '#' :: _ => .ok (s, cs)
  | _ =>
    match key? cs with
    | some (path, '=' :: rest) => do
      let (v, later) ← value (2 * rest.length + 2) (skipSpaces rest)
      return (← required (s.addEntry? path v), later)
    | _ => .error .malformed

/-- The statements of a document, one to a line; the fuel bounds the number of lines. -/
def statements : Nat → State → List Char → Except Fault State
  | 0, _, _ => .error .malformed
  | fuel + 1, s, cs =>
    match skipSpaces cs with
    | [] => .ok s
    | '\n' :: rest => statements fuel s rest
    | start => do
      let (s, rest) ← statement s start
      match skipComment? (skipSpaces rest) with
      | some [] => return s
      | some ('\n' :: later) => statements fuel s later
      | _ => throw .malformed

/-- Line feeds in place of pairs of carriage return and line feed. -/
def joinLineEnds : List Char → List Char
  | '\r' :: '\n' :: cs => '\n' :: joinLineEnds cs
  | c :: cs => c :: joinLineEnds cs
  | [] => []

/-- The document of a text. The first fault met from the start of the text is reported. -/
def read (text : String) : Except Fault Entries :=
  let cs := joinLineEnds text.toList
  (statements (cs.length + 2) {} cs).map (·.entries)

end CodeSmells.Toml
