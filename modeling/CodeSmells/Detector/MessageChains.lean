import CodeSmells.Grouping
import CodeSmells.Smell.Detector
import CodeSmells.Text.Literal
import CodeSmells.Text.Scan

/-!
Message chains: long chains of calls, and long paths to nodes. A call chain is a dotted sequence of
names, each with or without arguments that hold no parentheses; its links are the names with
arguments. A node path is written after a dollar sign or in a node look-up.
-/

set_option autoImplicit false

namespace CodeSmells.MessageChains

open Text

/-- Arguments in parentheses that hold no further parenthesis, left out when there are none; with
whether they were there. -/
def optArguments (cs : List Char) : Bool × List Char :=
  match cs with
  | '(' :: inner =>
    match inner.dropWhile fun c => c != '(' && c != ')' with
    | ')' :: rest => (true, rest)
    | _ => (false, cs)
  | _ => (false, cs)

/-- A link: a name and whether it has arguments. -/
abbrev Link := List Char × Bool

/-- A link at the start of a text. -/
def link? (cs : List Char) : Option (Link × List Char) :=
  match run? isWord cs with
  | some (name, rest) =>
    let (called, rest) := optArguments rest
    some ((name, called), rest)
  | none => none

/-- The further links of a chain, each after a dot; `fuel` bounds their number. -/
def moreLinks : Nat → List Char → List Link × List Char
  | 0, cs => ([], cs)
  | fuel + 1, cs =>
    match (char? '.' cs).bind link? with
    | some (link, rest) =>
      let (links, rest) := moreLinks fuel rest
      (link :: links, rest)
    | none => ([], cs)

/-- A chain of two links or more, as it is written. -/
def callChain : Pattern (List Char) := fun _ cs =>
  match link? cs with
  | some (_, rest) =>
    match moreLinks rest.length rest with
    | ([], _) => none
    | (_, rest) => some (cs.take (cs.length - rest.length), rest)
  | none => none

/-- One link of a chain. -/
def chainLink : Pattern Link := fun _ cs =>
  link? cs

/-- One step of a node path: a name or the parent. -/
def pathStep? (cs : List Char) : Option (List Char × List Char) :=
  match cs with
  | '.' :: '.' :: rest => some (['.', '.'], rest)
  | _ => run? isWord cs

/-- The further steps of a node path, each after a slash; `fuel` bounds their number. -/
def moreSteps : Nat → List Char → List Char × List Char
  | 0, cs => ([], cs)
  | fuel + 1, cs =>
    match (char? '/' cs).bind pathStep? with
    | some (step, rest) =>
      let (steps, rest) := moreSteps fuel rest
      ('/' :: step ++ steps, rest)
    | none => ([], cs)

/-- A node path after a dollar sign, in double quotes or bare. -/
def dollarPath : Pattern (List Char) := fun _ cs => do
  let cs ← char? '$' cs
  let quotedPath := do
    let (path, rest) ← run? (· != '"') (← char? '"' cs)
    return (path, ← char? '"' rest)
  let barePath := do
    let (step, rest) ← pathStep? cs
    let (steps, rest) := moreSteps rest.length rest
    return (step ++ steps, rest)
  quotedPath.or barePath

/-- The literal path of a node look-up. -/
def lookupPath : Pattern (List Char) := fun _ cs => do
  let cs ← after? "get_node".toList cs
  let cs ← char? '(' (skipBlanks cs)
  let (path, cs) ← run? notQuoteMark (← quoteMark? (skipBlanks cs))
  return (path, ← quoteMark? cs)

/-- The steps of a path that are not empty. -/
def pathSegments (path : List Char) : List String :=
  ((splitAtChars (· == '/') path).filter fun s => !s.isEmpty).map String.ofList

/-- The two kinds of chain. -/
inductive Kind where
  | nodePath
  | callChain
deriving DecidableEq, Inhabited

/-- The name of a kind in reports. -/
def Kind.name : Kind → String
  | nodePath => "node_path"
  | callChain => "call_chain"

/-- A chain with the method and line it stands in. -/
structure Chain where
  kind : Kind
  segments : List String
  method : String
  line : Option Int
deriving DecidableEq, Inhabited

/-- The number of links. -/
def Chain.length (c : Chain) : Nat :=
  c.segments.length

/-- The names that a written chain calls: it is searched for links once more. -/
def calledNames (chain : List Char) : List String :=
  ((chainLink.findAll chain).filter (·.2)).map fun l => String.ofList l.1

/-- The chains of two links or more in a code line: look-ups, then dollar paths, then calls. -/
def chainsOf (method : String) (line : SourceLine) : List Chain :=
  let content := line.content
  let paths := (lookupPath.findAll content ++ dollarPath.findAll content).map pathSegments
  let calls := (callChain.findAll (codeOf content)).map calledNames
  (paths.map (Chain.mk .nodePath · method line.number) ++
    calls.map (Chain.mk .callChain · method line.number)).filter fun c => c.length > 1

/-- The chains of a method. -/
def messageChains (m : Method) : List Chain :=
  m.codeLines.flatMap (chainsOf m.name)

/-- The chains that are too long. -/
structure Findings where
  chains : List Chain
deriving DecidableEq, Inhabited

/-- The methods that a scope looks at. -/
def methodsOf : Scope → List Method
  | .ofMethod m .. => [m]
  | .ofClass k .. => k.methods
  | .ofProject _ => []

/-- Finds the chains of some methods that exceed the limit. -/
def findings (methods : List Method) (t : Thresholds) : Except Fault Findings := do
  let limit ← t.get "max_chain_length"
  return ⟨← (methods.flatMap messageChains).filterM fun c => Measured.above c.length limit⟩

namespace Findings

variable (f : Findings)

/-- The length of the longest chain. -/
def deepest : Nat :=
  greatest (f.chains.map Chain.length)

/-- How grave the longest chain is. -/
def severity : Severity :=
  .grade [(f.deepest > 5, .high), (f.deepest > 3, .medium)]

/-- The findings as a table. -/
def toValue (t : Thresholds) : Value :=
  .table [
    ("chains", .row (f.chains.map fun c => .table [
      ("kind", .text c.kind.name),
      ("chain", .texts c.segments),
      ("length", .count c.length),
      ("method", .text c.method),
      ("line", .optWhole c.line)])),
    ("max_chain_length", .count f.deepest),
    ("thresholds", t.configured)]

end Findings

/-- The detector of message chains. -/
def detector : Detector where
  name := "MessageChains"
  description := "Long chains of calls or node paths that couple code to a deep structure"
  scopes := [.perMethod, .perClass]
  defaults := [("max_chain_length", .whole 3)]
  evaluate scope t := do
    let f ← findings (methodsOf scope) t
    return some ⟨!f.chains.isEmpty, f.severity, scope.location, f.toValue t⟩

end CodeSmells.MessageChains
