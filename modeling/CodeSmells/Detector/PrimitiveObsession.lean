import CodeSmells.Number.Decimal
import CodeSmells.Smell.Detector
import CodeSmells.Text.Literal
import CodeSmells.Text.Scan

/-!
Primitive obsession: magic numbers and strings, node look-ups by a literal path, and fields without
a declared type.
-/

set_option autoImplicit false

namespace CodeSmells.PrimitiveObsession

open Text

/-- A number in code: digits with an optional fraction, between word boundaries. Where a word
character follows the point or the fraction the number ends with the point. -/
def numberLiteral : Pattern (List Char) := fun before cs =>
  if holdsAt isWord before then none
  else
    match run? isDecimal cs with
    | none => none
    | some (whole, '.' :: rest) =>
      let part := rest.takeWhile isDecimal
      let later := rest.dropWhile isDecimal
      if holdsAt isWord later.head? then some (whole ++ ['.'], rest)
      else if part.isEmpty then some (whole, '.' :: rest)
      else some (whole ++ '.' :: part, later)
    | some (whole, rest) => if holdsAt isWord rest.head? then none else some (whole, rest)

/-- Whether a number is magic: a fraction above one, or anything above ten. -/
def isMagicQuantity (x : Quantity) : Bool :=
  (Quantity.lt (.ofNat 1) x.abs && !x.isWhole) || Quantity.lt (.ofNat 10) x

/-- Whether a literal is a magic number; nothing when it is no number. -/
def isMagicNumber? (literal : List Char) : Option Bool :=
  (Quantity.read? literal).map isMagicQuantity

/-- Whether a literal is a magic number; a literal that is no number breaks off. -/
def isMagic (literal : List Char) : Except Fault Bool :=
  match isMagicNumber? literal with
  | some magic => .ok magic
  | none => .error (.unreadable (String.ofList literal))

/-- A literal of three characters or more, without its marks. -/
def stringLiteral : Pattern (List Char) := fun _ cs => do
  let cs ← quoteMark? cs
  let (body, rest) ← run? notQuoteMark cs
  let rest ← quoteMark? rest
  if body.length < 3 then none else some (body, rest)

/-- A node look-up by a literal path. -/
def literalLookup : Pattern Unit := fun _ cs => do
  let cs ← after? "get_node".toList cs
  let cs ← char? '(' (skipBlanks cs)
  let cs ← quoteMark? (skipBlanks cs)
  let (_, cs) ← run? notQuoteMark cs
  let cs ← quoteMark? cs
  let cs ← char? ')' (skipBlanks cs)
  return ((), cs)

/-- The places where a text may end: its end, and before a last line feed. -/
def endings (cs : List Char) : List (List Char) :=
  if cs.getLast? == some '\n' then [cs, cs.dropLast] else [cs]

/-- The plain letter that a letter of a file ending matches in any case. -/
def foldLetter (c : Char) : Char :=
  if c.toNat == 0x17f then 's'
  else if c.toNat == 0x130 || c.toNat == 0x131 then 'i'
  else c.toLower

/-- The endings of resource files. -/
def resourceEndings : List String :=
  [".png", ".jpg", ".jpeg", ".gif", ".tscn", ".gd"]

/-- Whether a text names a resource file. -/
def namesResource (cs : List Char) : Bool :=
  (endings cs).any fun e =>
    let folded := e.map foldLetter
    resourceEndings.any fun r => r.toList.isSuffixOf folded

/-- Whether a text, a last line feed aside, is not empty and consists of characters of one kind. -/
def consistsOf (p : Char → Bool) (cs : List Char) : Bool :=
  (endings cs).any fun e => !e.isEmpty && e.all p

/-- Whether a text, a last line feed aside, ends with another. -/
def endsWith (tail : String) (cs : List Char) : Bool :=
  (endings cs).any fun e => tail.toList.isSuffixOf e

/-- Texts that are no magic strings: addresses, resource files, plain identifiers, numbers, and
names of handlers, paths and names. -/
def isOrdinary (cs : List Char) : Bool :=
  startsWith "http://".toList cs || startsWith "https://".toList cs || namesResource cs ||
    consistsOf (fun c => c.isUpper || c == '_') cs || consistsOf (fun c => c.isLower || c == '_') cs ||
    consistsOf isDecimal cs || startsWith "on_".toList cs ||
    endsWith "_path" cs || endsWith "_name" cs

/-- Whether a text is a magic string. -/
def isMagicString (cs : List Char) : Bool :=
  cs.length > 3 && !isOrdinary cs

/-- The kinds of primitives that are counted. -/
inductive Kind where
  | magicNumber
  | magicString
  | nodeLookup
deriving DecidableEq, Inhabited

/-- The name of a kind in reports. -/
def Kind.name : Kind → String
  | magicNumber => "magic_number"
  | magicString => "magic_string"
  | nodeLookup => "string_get_node"

/-- One primitive with the line it stands on. -/
structure Example where
  kind : Kind
  value : String
  line : String
deriving DecidableEq, Inhabited

/-- The primitives of a line: its numbers, its strings and one node look-up. -/
def examplesOf (line : SourceLine) : Except Fault (List Example) := do
  let content := line.content
  let shown := String.ofList content
  let numbers ← (numberLiteral.findAll (codeOf content)).filterM isMagic
  let uncommented := stripTrailingComment content
  let strings := (stringLiteral.findAll uncommented).filter isMagicString
  return numbers.map (fun n => ⟨.magicNumber, String.ofList n, shown⟩) ++
    strings.map (fun s => ⟨.magicString, String.ofList s, shown⟩) ++
    if literalLookup.occurs uncommented then [⟨.nodeLookup, "get_node", shown⟩] else []

/-- The primitives of all code lines of a class. -/
def examples (k : Class) : Except Fault (List Example) := do
  return (← (k.methods.flatMap Method.codeLines).mapM examplesOf).flatten

/-- The number of examples that are listed. -/
def listedExamples : Nat := 10

/-- The primitives found in a class. -/
structure Findings where
  magicNumbers : Nat
  magicStrings : Nat
  nodeLookups : Nat
  untypedFields : Nat
  examples : List Example
deriving DecidableEq, Inhabited

/-- Counts the primitives of a class. -/
def findings (k : Class) : Except Fault Findings := do
  let all ← examples k
  return {
    magicNumbers := all.countP (·.kind == .magicNumber)
    magicStrings := all.countP (·.kind == .magicString)
    nodeLookups := all.countP (·.kind == .nodeLookup)
    untypedFields := k.untypedFields.length
    examples := all.take listedExamples }

namespace Findings

variable (f : Findings)

/-- Whether a count exceeds its limit. -/
def detected (t : Thresholds) : Except Fault Bool :=
  anyAbove t [(f.magicNumbers, "max_magic_numbers"), (f.magicStrings, "max_magic_strings"),
    (f.nodeLookups, "max_string_get_nodes"), (f.untypedFields, "max_untyped_vars")]

/-- How grave the counts are. -/
def severity : Severity :=
  .grade [
    (f.magicNumbers > 15 || f.untypedFields > 10, .high),
    (f.magicNumbers > 5 || f.nodeLookups > 3, .medium)]

/-- The findings as a table. -/
def toValue (t : Thresholds) : Value :=
  .table [
    ("magic_numbers", .count f.magicNumbers),
    ("magic_strings", .count f.magicStrings),
    ("string_get_nodes", .count f.nodeLookups),
    ("untyped_vars", .count f.untypedFields),
    ("examples", .row (f.examples.map fun e => .table [
      ("kind", .text e.kind.name), ("value", .text e.value), ("line", .text e.line)])),
    ("thresholds", t.configured)]

end Findings

/-- The detector of primitive obsession. -/
def detector : Detector where
  name := "PrimitiveObsession"
  description :=
    "Magic numbers and strings, string node lookups and untyped variables instead of types"
  scopes := [.perClass]
  defaults := [("max_magic_numbers", .whole 5), ("max_magic_strings", .whole 5),
    ("max_string_get_nodes", .whole 3), ("max_untyped_vars", .whole 3)]
  evaluate scope t :=
    match scope with
    | .ofClass k .. => do
      let f ← findings k
      return some ⟨← f.detected t, f.severity, scope.location, f.toValue t⟩
    | _ => .ok none

end CodeSmells.PrimitiveObsession
