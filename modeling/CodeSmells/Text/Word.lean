import CodeSmells.Text.Alphanumeric

/-!
Word characters and the words of a text. A word is a maximal run of letters, numbers and
underscores of any script, so a keyword stands in a text as a word of its own exactly when it is
one of the text's words.
-/

set_option autoImplicit false

namespace CodeSmells.Text

/-- Letters, numbers and the underscore. -/
def isWord (c : Char) : Bool :=
  isAlphanumeric c || c == '_'

/-- The characters a name may start with: ASCII letters and the underscore. -/
def isNameStart (c : Char) : Bool :=
  c.isAlpha || c == '_'

/-- Adds a character to the word under construction, which stands reversed in `run`. -/
def wordsFrom (run : List Char) : List Char → List (List Char)
  | [] => if run.isEmpty then [] else [run.reverse]
  | c :: cs =>
    if isWord c then wordsFrom (c :: run) cs
    else if run.isEmpty then wordsFrom [] cs
    else run.reverse :: wordsFrom [] cs

/-- The words of a text from left to right. -/
def words (cs : List Char) : List (List Char) :=
  wordsFrom [] cs

/-- Whether one of the given words stands in the text. -/
def hasWord (wanted : List String) (cs : List Char) : Bool :=
  (words cs).any fun w => wanted.any fun k => k.toList == w

/-- Whether the text starts with one of the given words. -/
def startsWithWord (wanted : List String) (cs : List Char) : Bool :=
  wanted.any fun k => k.toList == cs.takeWhile isWord

/-- Whether `cs` starts with `needle`. -/
def startsWith (needle : List Char) (cs : List Char) : Bool :=
  needle.isPrefixOf cs

/-- What follows `needle` at the start of the text. -/
def after? : List Char → List Char → Option (List Char)
  | [], cs => some cs
  | _ :: _, [] => none
  | n :: ns, c :: cs => if n == c then after? ns cs else none

theorem after?_eq_some_iff {needle cs rest : List Char} :
    after? needle cs = some rest ↔ cs = needle ++ rest := by
  induction needle generalizing cs with
  | nil => simp [after?]
  | cons n ns ih =>
    cases cs with
    | nil => simp [after?]
    | cons c cs =>
      rw [after?]
      by_cases h : n = c
      · simp [h, ih]
      · simp [h, Ne.symm h]

/-- Whether `needle` occurs in the text, at any position. -/
def occursIn (needle : List Char) : List Char → Bool
  | [] => needle.isEmpty
  | c :: cs => needle.isPrefixOf (c :: cs) || occursIn needle cs

/-- Whether one string occurs in another. -/
def contains (text needle : String) : Bool :=
  occursIn needle.toList text.toList

/-- A name: an ASCII letter or underscore, then word characters; with the rest of the text. -/
def name? : List Char → Option (List Char × List Char)
  | [] => none
  | c :: cs =>
    if isNameStart c then some (c :: cs.takeWhile isWord, cs.dropWhile isWord) else none

/-- Whether a whole text is a name. -/
def isName (cs : List Char) : Bool :=
  match name? cs with
  | some (_, rest) => rest.isEmpty
  | none => false

end CodeSmells.Text
