import CodeSmells.Script.Grammar
import CodeSmells.Script.Headers

/-!
The statements of a whole script. A script that does not follow the grammar is faulty; reading goes
on at the next line that starts at the left edge, so that its own name may still be found.
-/

set_option autoImplicit false

namespace CodeSmells.Script

/-- How many characters come before the next line that starts with a token at the left edge. -/
def nextTopLine : List Char → Nat
  | '\n' :: c :: cs =>
    if isFiller c || c == '#' then 1 + nextTopLine (c :: cs) else 1
  | _ :: cs => 1 + nextTopLine cs
  | [] => 0

/-- The statements of a script, and whether all of them could be read. -/
def statementsOf (depth : Nat) : Nat → Cursor → List Statement × Bool
  | 0, _ => ([], false)
  | fuel + 1, c =>
    let step := c.next true .nothing
    if step.token = .finish then ([], true)
    else
      match line depth .code false step.start with
      | some (first, rest) =>
        let (later, sound) := statementsOf depth fuel rest
        (first ++ later, sound)
      | none =>
        let here := step.start.skip (nextTopLine step.start.rest)
        ((statementsOf depth fuel { here with levels := [] }).1, false)

/-- The names of the classes among statements. -/
def classNamesIn (statements : List Statement) : List String :=
  (Statement.allDeclarations statements).filterMap fun d =>
    if d.kind == .innerClass then d.name.map (·.name) else none

/-- The statements of a script. -/
def SyntaxTree.ofText (source : String) : SyntaxTree :=
  let cs := source.toList
  let size := cs.length + 1
  let (statements, sound) := statementsOf (16 * size) size (.ofText cs)
  { faulty := !sound
    statements
    classNames := if sound then classNamesIn statements else looseClassNames cs }

end CodeSmells.Script
