import CodeSmells.Grouping
import CodeSmells.Keyed
import CodeSmells.Metric.Lines
import CodeSmells.Smell.Detector
import CodeSmells.Text.Scan

/-!
Switch statements: `match` statements and chains of `elif`, large ones, many of them, or several on
the same variable. The shape of a construct is read off the indentation of the code lines.
-/

set_option autoImplicit false

namespace CodeSmells.SwitchStatements

open Text

/-- A dotted name at the start of a text. -/
def dottedName? : List Char → Option (List Char)
  | c :: cs =>
    if isNameStart c then some (c :: cs.takeWhile fun d => isWord d || d == '.') else none
  | [] => none

/-- The variable of a `match` or `switch` header. -/
def matchVariable? (content : List Char) : Option (List Char) := do
  let rest ← (after? "match".toList content).or (after? "switch".toList content)
  dottedName? (skipBlanks (optChar '(' (skipBlanks rest)))

/-- The variable of an `if` header; a leading `not` is left aside where a name follows it. -/
def ifVariable? (content : List Char) : Option (List Char) := do
  let rest ← after? "if".toList ((after? "el".toList content).getD content)
  let rest ← someBlanks? rest
  let rest := skipBlanks (optChar '(' rest)
  (((after? "not".toList rest).bind someBlanks?).bind dottedName?).or (dottedName? rest)

/-- Whether a content goes on an `if` chain with another condition. -/
def isElif (content : List Char) : Bool :=
  startsWithWord ["elif"] content ||
    match (after? "else".toList content).bind someBlanks? with
    | some rest => startsWithWord ["if"] rest
    | none => false

/-- Whether a content ends an `if` chain. -/
def isElse (content : List Char) : Bool :=
  startsWithWord ["else"] content

/-- The number of lines at the indent of the first line below a header with indent `base`. -/
def countArms (base : Nat) : List SourceLine → Nat
  | [] => 0
  | first :: rest =>
    if first.indent ≤ base then 0
    else
      ((first :: rest).takeWhile fun l => base < l.indent).countP fun l => l.indent == first.indent

/-- The branches of an `if` chain after its header with indent `base`, and how many of them have a
condition. -/
def chainShape (base : Nat) : List SourceLine → Nat × Nat
  | [] => (0, 0)
  | line :: rest =>
    if base < line.indent then chainShape base rest
    else if line.indent < base then (0, 0)
    else if isElif line.content then
      let (branches, elifs) := chainShape base rest
      (branches + 1, elifs + 1)
    else if isElse line.content then (1, 0)
    else (0, 0)

/-- The two kinds of construct. -/
inductive Kind where
  | matching
  | ifChain
deriving DecidableEq, Inhabited

/-- The name of a kind in reports. -/
def Kind.name : Kind → String
  | matching => "match"
  | ifChain => "if_chain"

/-- A branching construct. -/
structure Construct where
  kind : Kind
  subject : String
  cases : Nat
  line : Option Int
deriving DecidableEq, Inhabited

/-- The construct that a line opens, given the code lines after it. -/
def construct? (line : SourceLine) (later : List SourceLine) : Option Construct :=
  match matchVariable? line.content with
  | some v => some ⟨.matching, String.ofList v, countArms line.indent later, line.number⟩
  | none =>
    if startsWithWord ["if"] line.content then
      let (branches, elifs) := chainShape line.indent later
      if elifs ≥ 2 then
        some ⟨.ifChain, String.ofList ((ifVariable? line.content).getD []), branches + 1,
          line.number⟩
      else none
    else none

/-- The constructs of some code lines. -/
def constructsOf : List SourceLine → List Construct
  | [] => []
  | line :: later => (construct? line later).toList ++ constructsOf later

/-- The constructs of a method. -/
def constructs (m : Method) : List Construct :=
  constructsOf m.codeLines

/-- The constructs found in a method. -/
structure Findings where
  constructs : List Construct
deriving DecidableEq, Inhabited

/-- Finds the constructs of a method. -/
def findings (m : Method) : Findings :=
  ⟨constructs m⟩

/-- The constructs seen so far: how often each variable was branched on, and how many repetitions
there were. -/
structure Repeats where
  total : Nat := 0
  seen : Keyed Nat := []

/-- Takes in one construct. Those without a variable are left aside. -/
def Repeats.step (s : Repeats) (c : Construct) : Repeats :=
  if c.subject == "" then s
  else
    let earlier := (s.seen.get? c.subject).getD 0
    ⟨s.total + earlier, s.seen.put c.subject (earlier + 1)⟩

namespace Findings

variable (f : Findings)

/-- The number of constructs. -/
def count : Nat :=
  f.constructs.length

/-- The most cases of a construct. -/
def maxCases : Nat :=
  greatest (f.constructs.map (·.cases))

/-- The mean number of cases. -/
def average : Quantity :=
  shareOf (total (f.constructs.map (·.cases))) f.count

/-- The number of constructs that repeat an earlier one on the same variable, once for each earlier
one. -/
def duplicated : Nat :=
  (f.constructs.foldl Repeats.step {}).total

/-- Whether there are too many constructs or cases, or several constructs on one variable. -/
def detected (t : Thresholds) : Except Fault Bool := do
  if ← anyAbove t [(f.count, "max_switches"), (f.maxCases, "max_cases")] then return true
  else return f.duplicated > 0

/-- How grave the constructs are. -/
def severity : Severity :=
  .grade [
    (f.duplicated > 3, .critical),
    (Quantity.lt (.ofNat 10) f.average || f.duplicated > 0, .high),
    (f.count > 2, .medium)]

/-- The findings as a table. -/
def toValue (t : Thresholds) : Value :=
  .table [
    ("switch_count", .count f.count),
    ("max_cases", .count f.maxCases),
    ("average_cases", .real (f.average.roundPlaces 2)),
    ("duplicated_switches", .count f.duplicated),
    ("switches", .row (f.constructs.map fun c => .table [
      ("kind", .text c.kind.name),
      ("variable", .text c.subject),
      ("cases", .count c.cases),
      ("line", .optWhole c.line)])),
    ("thresholds", t.configured)]

end Findings

/-- The detector of switch statements. -/
def detector : Detector where
  name := "SwitchStatements"
  description := "Repeated or oversized match statements and if/elif chains on the same value"
  scopes := [.perMethod]
  defaults := [("max_switches", .whole 2), ("max_cases", .whole 5)]
  evaluate scope t :=
    match scope with
    | .ofMethod m .. => do
      let f := findings m
      return some ⟨← f.detected t, f.severity, scope.location, f.toValue t⟩
    | _ => .ok none

end CodeSmells.SwitchStatements
