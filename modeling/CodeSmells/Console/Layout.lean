import CodeSmells.Console.Width
import CodeSmells.Text.Blank

/-!
Texts, panels and tables on a terminal of a fixed width. A text is broken between words; blanks at
the end of a line are dropped where they go beyond the width. A word that is wider than a whole line
is cut between the characters as they show.
-/

set_option autoImplicit false

namespace CodeSmells.Console

open Text

/-- The width of the terminal in cells. -/
def terminalWidth : Nat := 80

/-- Adds a character to the word under construction, which stands reversed in `word`. A word is
its characters with the blanks around them; blanks before the first word belong to it. -/
def wordsWithBlanks (word : List Char) : List Char → List (List Char)
  | [] => if word.all isBlank then [] else [word.reverse]
  | c :: cs =>
    if !isBlank c && (word.head?.map isBlank).getD false && !word.all isBlank then
      word.reverse :: wordsWithBlanks [c] cs
    else wordsWithBlanks (c :: word) cs

/-- Cuts the clusters of a word into pieces of a width; `piece` holds the current piece, `used`
cells wide. -/
def chop (width : Nat) (piece : List Char) (used : Nat) : List Cluster → List (List Char)
  | [] => [piece]
  | k :: ks =>
    if width < used + k.width then piece :: chop width k.chars k.width ks
    else chop width (piece ++ k.chars) (used + k.width) ks

/-- The lines of a text as far as they are filled: finished ones, and the current one with its
width. -/
structure Filling where
  done : List (List Char) := []
  current : List Char := []
  used : Nat := 0

/-- Adds a word to the lines. -/
def Filling.add (width : Nat) (f : Filling) (word : List Char) : Filling :=
  let needed := textWidth (dropTrailing isBlank word)
  if f.used + needed ≤ width then
    { f with current := f.current ++ word, used := f.used + textWidth word }
  else
    let done := if f.current.isEmpty then f.done else f.done ++ [f.current]
    if width < needed then
      let pieces := chop width [] 0 (clusters word)
      let last := pieces.getLast?.getD []
      ⟨done ++ pieces.dropLast, last, textWidth last⟩
    else ⟨done, word, textWidth word⟩

/-- Drops the blanks at the end of a line that go beyond the width. -/
def dropExcess (width : Nat) (line : List Char) : List Char :=
  let blanks := (line.reverse.takeWhile isBlank).length
  line.take (line.length - min blanks (line.length - width))

/-- The clusters that fit into a width, which they exceed; a blank stands for half of one that
does not. -/
def fittingClusters (width : Nat) : List Cluster → List Char
  | [] => []
  | k :: ks =>
    if k.width ≤ width then k.chars ++ fittingClusters (width - k.width) ks
    else List.replicate width ' '

/-- A line cut down to a width. -/
def fitting (width : Nat) (line : List Char) : List Char :=
  if textWidth line ≤ width then line else fittingClusters width (clusters line)

/-- Breaks one line into lines of a width. -/
def wrapLine (width : Nat) (line : List Char) : List (List Char) :=
  match wordsWithBlanks [] line with
  | [] => [fitting width (dropExcess width line)]
  | words =>
    let f := words.foldl (Filling.add width) {}
    (f.done ++ [f.current]).map fun l => fitting width (dropExcess width l)

/-- The distance of tabulator stops in cells. -/
def tabStop : Nat := 8

/-- The parts of a line between its tabulators, the first of which starts at a column, with blanks up
to the next stop in place of each tabulator. -/
def fillStops (column : Nat) : List (List Char) → List Char
  | [] => []
  | [part] => part
  | part :: parts =>
    let reached := column + textWidth (part ++ [' '])
    let next := (reached + tabStop - 1) / tabStop * tabStop
    part ++ ' ' :: List.replicate (next - reached) ' ' ++ fillStops next parts

/-- A line with blanks in place of its tabulators. -/
def expandTabs (line : List Char) : List Char :=
  fillStops 0 (line.splitOnP (· == '\t'))

/-- Characters that a terminal would act upon are not printed. -/
def isPrintedControl (c : Char) : Bool :=
  let n := c.toNat
  n == 7 || n == 8 || n == 11 || n == 12 || n == 13

/-- Breaks a text into lines of a width; its own line ends stay. -/
def wrap (width : Nat) (text : List Char) : List (List Char) :=
  ((text.filter fun c => !isPrintedControl c).splitOnP (· == '\n')).flatMap fun line =>
    wrapLine width (expandTabs line)

/-- A text filled up with blanks to a width. -/
def padTo (width : Nat) (cs : List Char) : List Char :=
  cs ++ List.replicate (width - textWidth cs) ' '

/-- A text with blanks before it up to a width. -/
def padLeftTo (width : Nat) (cs : List Char) : List Char :=
  List.replicate (width - textWidth cs) ' ' ++ cs

/-- A text in the middle of a width; of an odd number of blanks the greater part comes after. -/
def centre (width : Nat) (cs : List Char) : List Char :=
  padTo width (List.replicate ((width - textWidth cs) / 2) ' ' ++ cs)

/-- A row of one sign. -/
def rule (n : Nat) (c : Char) : List Char :=
  List.replicate n c

/-- A frame over the whole width with a title in its upper edge. -/
def panel (title : String) (content : List Char) : List (List Char) :=
  let label := ' ' :: title.toList ++ [' ']
  let free := terminalWidth - 4 - textWidth label
  let top := '╭' :: '─' :: rule (free / 2) '─' ++ label ++ rule (free - free / 2) '─' ++ ['─', '╮']
  let bottom := '╰' :: rule (terminalWidth - 2) '─' ++ ['╯']
  top :: ((wrap (terminalWidth - 4) content).map fun l =>
    '│' :: ' ' :: padTo (terminalWidth - 4) l ++ [' ', '│']) ++ [bottom]

/-- A table of names and counts, under a title. -/
structure CountTable where
  title : String
  heading : String
  rows : List (String × Nat)

namespace CountTable

variable (t : CountTable)

/-- The width of the column of names. -/
def nameWidth : Nat :=
  (t.heading :: t.rows.map (·.1)).foldl (fun w s => max w (textWidth s.toList)) 0

/-- The heading of the column of counts. -/
def countHeading : String := "Count"

/-- The width of the column of counts. -/
def countWidth : Nat :=
  (t.rows.map fun r => (toString r.2).length).foldl max countHeading.length

/-- An edge of the table: its two ends, its middle and its line. -/
def edge (left middle right line : Char) : List Char :=
  left :: rule (t.nameWidth + 2) line ++ middle :: rule (t.countWidth + 2) line ++ [right]

/-- A row of the table between the given signs. -/
def row (bar : Char) (name count : List Char) : List Char :=
  bar :: ' ' :: padTo t.nameWidth name ++ ' ' :: bar :: ' ' :: count ++ [' ', bar]

/-- The lines of the table. -/
def lines : List (List Char) :=
  centre (t.nameWidth + t.countWidth + 7) t.title.toList ::
    t.edge '┏' '┳' '┓' '━' ::
    t.row '┃' t.heading.toList (padLeftTo t.countWidth countHeading.toList) ::
    t.edge '┡' '╇' '┩' '━' ::
    (t.rows.map fun (name, n) =>
      t.row '│' name.toList (padLeftTo t.countWidth (toString n).toList)) ++
    [t.edge '└' '┴' '┘' '─']

end CountTable

/-- Lines as they are printed. -/
def printed (ls : List (List Char)) : String :=
  String.join (ls.map fun l => String.ofList l ++ "\n")

end CodeSmells.Console
