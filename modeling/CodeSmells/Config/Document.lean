import CodeSmells.Config.Error
import CodeSmells.Config.Key
import CodeSmells.Model.Draft

/-!
Settings from a document. Thresholds may stand in a table of their own or at the top level, under
any spelling of their names; top-level ones come after those of the table and win over them. Every
threshold is checked against the kind and range of its default.
-/

set_option autoImplicit false

namespace CodeSmells.Config

/-- Checks one threshold against its default. A fraction given for a whole-number threshold must be
whole, and is taken as a whole number. A number that is too long to be shown takes the place of the
message on it. -/
def checkThreshold (key : String) (value : Value) : Except String Value :=
  let named := "threshold '" ++ key ++ "' "
  match Catalog.defaultThresholds.get? key with
  | none => .error ("unknown threshold '" ++ key ++ "'")
  | some (.flag _) =>
    match value with
    | .flag b => .ok (.flag b)
    | _ => .error (named ++ "must be true or false")
  | some default =>
    let amount? := match value with
      | .whole n => some (Quantity.ofInt n)
      | .real x => some x
      | _ => none
    match amount? with
    | none => do throw (named ++ "must be a number, got " ++ (← value.literal))
    | some amount =>
      if amount.lt (.ofInt 0) then
        do throw (named ++ "must not be negative, got " ++ (← value.literal))
      else if Catalog.ratioThresholds.contains key && Quantity.lt (.ofInt 1) amount then
        do throw (named ++ "is a ratio and must lie within [0, 1], got " ++ (← value.literal))
      else
        match default, value with
        | .whole _, .real x =>
          match x.isWhole, x.toInt? with
          | true, some n => .ok (.whole n)
          | _, _ => do throw (named ++ "must be a whole number, got " ++ (← value.literal))
        | _, _ => .ok value

/-- Entries whose keys may be values of any kind. -/
abbrev RawEntries := List (Value × Value)

/-- Whether two values are the same key; numbers are compared by value. -/
def sameKey (a b : Value) : Bool :=
  match a, b with
  | .null, .null => true
  | .text s, .text t => s == t
  | .moment m, .moment n => m == n
  | _, _ =>
    match a.quantity?.bind (·.value?), b.quantity?.bind (·.value?) with
    | some p, some q => p == q
    | _, _ => false

/-- Puts a value under a key: in place when the key is there, else at the end. -/
def putRaw (key value : Value) : RawEntries → RawEntries
  | [] => [(key, value)]
  | (k, v) :: es => if sameKey k key then (k, value) :: es else (k, v) :: putRaw key value es

/-- The pair that an item of a sequence stands for: its two members. -/
def pairOf (item : Value) : Except DocumentError (Value × Value) :=
  match item.members? with
  | none => .error .unusable
  | some [k, v] => if k.isHashable then .ok (k, v) else .error .unusable
  | some _ => .error .unevenPair

/-- The entries that a value stands for. What counts as false has none, and a sequence is read as
pairs. -/
def entriesOf (value : Value) : Except DocumentError RawEntries :=
  if !value.isTruthy then .ok []
  else
    match value with
    | .table es => .ok (es.map fun (k, v) => (.text k, v))
    | v =>
      match v.members? with
      | none => .error .unusable
      | some items => items.foldlM (fun es item => do
          let (k, v) ← pairOf item
          return putRaw k v es) []

/-- The overrides of raw entries; the first fault is reported. -/
def checkThresholds (es : RawEntries) : Except String Entries :=
  es.foldlM (fun acc (k, v) => do
    let key := normalizeKey (← k.describe)
    return acc.put key (← checkThreshold key v)) []

/-- The outcome of checking one part of a document: a value, or the problems found. -/
abbrev Checked (α : Type) := Except (List Problem) α

/-- One problem at a place. -/
def problemAt {α : Type} (place : List String) (message : String) : Checked α :=
  .error [⟨place, message⟩]

/-- The names of a list of detectors, without repetitions; the first unknown one is a problem. -/
def checkNames (place : List String) (seen : List String) :
    List Value → Except DocumentError (Checked (List String))
  | [] => .ok (.ok seen)
  | name :: rest =>
    if !name.isHashable then .error .unusable
    else
      match name with
      | .text s =>
        if Catalog.names.contains s then
          checkNames place (if seen.contains s then seen else seen ++ [s]) rest
        else .ok (problemAt place ("unknown detector '" ++ s ++ "'"))
      | v => .ok (problemAt place (match v.describe with
          | .ok shown => "unknown detector '" ++ shown ++ "'"
          | .error message => message))

/-- The enabled detectors of a document. -/
def checkDetectors (place : List String) : Value → Except DocumentError (Checked (List String))
  | .null => .ok (.ok Catalog.names)
  | .list names => checkNames place [] names
  | _ => .ok (problemAt place "enabled_detectors must be a list of detector names")

/-- The words that stand for true and false. -/
def truthWords : List (String × Bool) :=
  (["0", "off", "f", "false", "n", "no"].map (·, false)) ++
    (["1", "on", "t", "true", "y", "yes"].map (·, true))

/-- The least whole number above the signed numbers of 64 bits. -/
def wordBound : Int := 9223372036854775808

/-- A flag: a truth value, nought or one, or a word for them. A whole number that does not fit into
64 bits is not looked at any closer than a value of another kind; the least number that fits does so
as a whole number only. -/
def checkFlag (place : List String) (value : Value) : Checked Bool :=
  let unclear : Checked Bool :=
    problemAt place "Input should be a valid boolean, unable to interpret input"
  let unfit : Checked Bool := problemAt place "Input should be a valid boolean"
  let ofNumber (n : Int) : Checked Bool :=
    if n == 0 then .ok false else if n == 1 then .ok true else unclear
  match value with
  | .flag b => .ok b
  | .whole n => if -wordBound ≤ n && n < wordBound then ofNumber n else unfit
  | .real x =>
    match x.isWhole, x.toInt? with
    | true, some n => if -wordBound < n && n < wordBound then ofNumber n else unfit
    | _, _ => unfit
  | .text s =>
    match truthWords.find? fun w => w.1.toList == s.toList.map Char.toLower with
    | some (_, b) => .ok b
    | none => unclear
  | _ => unfit

/-- The format of the report. -/
def checkFormat (place : List String) (value : Value) : Checked ReportFormat :=
  match value.describe with
  | .error message => problemAt place message
  | .ok shown =>
    match ReportFormat.ofText? shown with
    | some f => .ok f
    | none => problemAt place ("unsupported output format '" ++ shown ++
        "' (expected one of: " ++ ReportFormat.choices ++ ")")

/-- A plain text. -/
def checkText (place : List String) : Value → Checked String
  | .text s => .ok s
  | _ => problemAt place "Input should be a valid string"

/-- The key under which a field stands in a table: its second spelling goes before its name. -/
def spelling? (es : Entries) (name : String) : Option String → Option String
  | some other => if es.has other then some other else if es.has name then some name else none
  | none => if es.has name then some name else none

/-- A field of a table, checked where it stands, or its default where it does not. -/
def fieldOr {α : Type} (default : α) (place : List String) (es : Entries)
    (check : List String → Value → Checked α) : Option String → Checked α
  | none => .ok default
  | some key => check (place ++ [key]) ((es.get? key).getD .null)

/-- Problems of the first part before those of the second. -/
def both {α β : Type} : Checked α → Checked β → Checked (α × β)
  | .ok a, .ok b => .ok (a, b)
  | .error p, .error q => .error (p ++ q)
  | .error p, .ok _ => .error p
  | .ok _, .error q => .error q

/-- The keys of a table that no field has taken. -/
def checkExtra (place : List String) (taken : List (Option String)) (es : Entries) : Checked Unit :=
  match es.filter fun (k, _) => !taken.contains (some k) with
  | [] => .ok ()
  | extra => .error (extra.map fun (k, _) => ⟨place ++ [k], "Extra inputs are not permitted"⟩)

/-- The output settings of a document. -/
def checkOutput (place : List String) : Value → Checked OutputSettings
  | .table es =>
    let format := spelling? es "format" none
    let directory := spelling? es "directory" none
    let details := spelling? es "include_details" (some "includeDetails")
    let grouping := spelling? es "group_by_severity" (some "groupBySeverity")
    let initial : OutputSettings := {}
    (both (fieldOr initial.format place es checkFormat format)
      (both (fieldOr initial.directory place es checkText directory)
        (both (fieldOr initial.includeDetails place es checkFlag details)
          (both (fieldOr initial.groupBySeverity place es checkFlag grouping)
            (checkExtra place [format, directory, details, grouping] es))))).map
      fun (f, d, i, g, _) => ⟨f, d, i, g⟩
  | _ => problemAt place "Input should be a valid dictionary or instance of OutputSettings"

/-- The threshold overrides of a document, once they are entries. -/
def checkOverrides (place : List String) (es : RawEntries) : Checked Entries :=
  match checkThresholds es with
  | .ok overrides => .ok overrides
  | .error message => problemAt place message

/-- The parts of a document: its top-level entries, and what stands under `thresholds`. -/
structure Parts where
  top : Entries
  thresholds : Option (Checked RawEntries)

/-- The detectors that a document enables under a key; all of them when it has no such key. -/
def checkEnabled (top : Entries) : Option String → Except DocumentError (Checked (List String))
  | none => .ok (.ok Catalog.names)
  | some key => checkDetectors [key] ((top.get? key).getD .null)

/-- The overrides that stand under `thresholds`. -/
def overridesOf : Option (Checked RawEntries) → Checked Entries
  | none => .ok []
  | some raw => raw.bind (checkOverrides ["thresholds"])

/-- Validates the parts of a document. Problems come in the order detectors, thresholds, output,
unknown keys. -/
def validateParts (p : Parts) : Except DocumentError Settings := do
  let enabledKey := spelling? p.top "enabled_detectors" (some "enabledDetectors")
  let enabled ← checkEnabled p.top enabledKey
  let outputKey := spelling? p.top "output" none
  let output := fieldOr {} [] p.top checkOutput outputKey
  let extra := checkExtra [] [enabledKey, outputKey] p.top
  match both enabled (both (overridesOf p.thresholds) (both output extra)) with
  | .ok (names, overrides, out, _) => return ⟨names, overrides, out⟩
  | .error problems => throw (.refused (.invalid problems))

/-- Settings from a document as it stands: thresholds only in their own table. -/
def validate : Value → Except DocumentError Settings
  | .table doc =>
    validateParts ⟨Entries.erase "thresholds" doc, (Entries.get? "thresholds" doc).map fun v =>
      match v with
      | .null => .ok []
      | .table es => .ok (es.map fun (k, v) => (.text k, v))
      | _ => problemAt ["thresholds"] "thresholds must be a table of name = value pairs"⟩
  | _ => .error (.refused (.invalid
      [⟨[], "Input should be a valid dictionary or instance of AnalysisConfig"⟩]))

/-- Whether a key is a spelling of a threshold's name. -/
def isThresholdKey (key : String) : Bool :=
  Catalog.defaultThresholds.has (normalizeKey key)

/-- Settings from a document in which thresholds may also stand at the top level. -/
def ofDocument (doc : Entries) : Except DocumentError Settings := do
  let inTable ← entriesOf ((doc.get? "thresholds").getD .null)
  let rest := doc.erase "thresholds"
  let all := (rest.filter fun e => isThresholdKey e.1).foldl
    (fun es (k, v) => putRaw (.text k) v es) inTable
  validateParts ⟨rest.filter fun e => !isThresholdKey e.1,
    if all.isEmpty then none else some (.ok all)⟩

end CodeSmells.Config
