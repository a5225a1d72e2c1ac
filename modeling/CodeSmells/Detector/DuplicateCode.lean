import CodeSmells.Grouping
import CodeSmells.Metric.Similarity
import CodeSmells.Smell.Detector

/-!
Duplicate code: pairs of methods whose bodies share many lines.
-/

set_option autoImplicit false

namespace CodeSmells.DuplicateCode

/-- The body of a method, line by line without indentation. -/
structure Block where
  className : String
  method : String
  file : Option String
  lines : List String
deriving DecidableEq, Inhabited

/-- The number of lines that a preview shows. -/
def previewLines : Nat := 3

/-- The number of pairs that are listed. -/
def listedPairs : Nat := 10

/-- The first lines of a block. -/
def Block.preview (b : Block) : String :=
  String.intercalate "\n" (b.lines.take previewLines) ++
    if b.lines.length > previewLines then "\n..." else ""

/-- All method bodies of a project in order. -/
def blocks (p : Project) : List Block :=
  p.classes.flatMap fun k => k.methods.map fun m =>
    ⟨k.name, m.name, k.filePath, m.lines.map fun l => String.ofList l.content⟩

/-- Two blocks and how alike they are. -/
structure Duplicate where
  first : Block
  second : Block
  similarity : Quantity
deriving DecidableEq, Inhabited

/-- Whether two blocks are alike enough. -/
def isDuplicate (limit : Value) (d : Duplicate) : Except Fault Bool :=
  if Quantity.lt (.finite 0) d.similarity then Measured.atLeast d.similarity limit
  else .ok false

/-- The duplicates of a project. -/
structure Findings where
  duplicates : List Duplicate
deriving DecidableEq, Inhabited

/-- Finds the duplicates of a project. -/
def findings (p : Project) (t : Thresholds) : Except Fault Findings := do
  let minLines ← t.get "min_lines"
  let minSimilarity ← t.get "min_similarity"
  let long ← (blocks p).filterM fun b => Measured.atLeast b.lines.length minLines
  let all := (pairs long).map fun (a, b) => ⟨a, b, blockSimilarity a.lines b.lines⟩
  return ⟨← all.filterM (isDuplicate minSimilarity)⟩

/-- A block as a table. -/
def Block.toValue (b : Block) : Value :=
  .table [
    ("class_name", .text b.className),
    ("method", .text b.method),
    ("file", .optText b.file),
    ("lines", .count b.lines.length),
    ("preview", .text b.preview)]

namespace Findings

variable (f : Findings)

/-- How grave the number of duplicates is. -/
def severity : Severity :=
  .grade [
    (f.duplicates.length > 10, .critical),
    (f.duplicates.length > 5, .high),
    (f.duplicates.length > 2, .medium)]

/-- The findings as a table. -/
def toValue (t : Thresholds) : Value :=
  .table [
    ("duplicate_count", .count f.duplicates.length),
    ("duplicates", .row ((f.duplicates.take listedPairs).map fun d => .table [
      ("first", d.first.toValue),
      ("second", d.second.toValue),
      ("similarity", .real (d.similarity.roundPlaces 2))])),
    ("thresholds", t.configured)]

end Findings

/-- The detector of duplicate code. -/
def detector : Detector where
  name := "DuplicateCode"
  description := "Method bodies that repeat the same lines of code"
  scopes := [.perProject]
  defaults := [("min_lines", .whole 5), ("min_similarity", .real (.ratio 6 10)),
    ("similarity_threshold", .whole 6)]
  ratioKeys := ["min_similarity"]
  evaluate scope t :=
    match scope with
    | .ofProject p => do
      let f ← findings p t
      return some ⟨!f.duplicates.isEmpty, f.severity, scope.location, f.toValue t⟩
    | _ => .ok none

end CodeSmells.DuplicateCode
