import CodeSmells.Config.Settings
import CodeSmells.Number.Limit

/-!
Why a configuration is refused. A document that does not validate is refused with all its problems
at once, each with its place in the document.
-/

set_option autoImplicit false

namespace CodeSmells

/-- A problem at a place of a document. -/
structure Problem where
  place : List String
  message : String
deriving DecidableEq, Inhabited

/-- The problem with its place in front; a place without a name is left out. -/
def Problem.describe (p : Problem) : String :=
  let place := String.intercalate "." p.place
  if place == "" then p.message else place ++ ": " ++ p.message

/-- Why a configuration cannot be loaded or does not validate. -/
inductive ConfigError where
  | invalid (problems : List Problem)
  | notFound (path : String)
  | malformed (path : String)
  | unreadable (path reason : String)
  | unsupportedFormat (format : String)
deriving DecidableEq, Inhabited

/-- The wording of each reason. -/
def ConfigError.message : ConfigError → String
  | invalid problems =>
    "Invalid configuration: " ++ String.intercalate "; " (problems.map Problem.describe)
  | notFound path => "Configuration file not found: " ++ path
  | malformed path => "Malformed TOML in " ++ path
  | unreadable path reason => "Cannot read configuration " ++ path ++ ": " ++ reason
  | unsupportedFormat format =>
    "Unsupported output format '" ++ format ++ "' (expected one of: " ++ ReportFormat.choices ++ ")"

/-- How the reading of a document can end without settings. Besides a proper refusal, a whole
number may have too many digits to be read, and thresholds that are not a table may break off the
reading: pairs may have the wrong length, or a value may not be usable as a pair, a key or a name at
all. -/
inductive DocumentError where
  | refused (error : ConfigError)
  | longNumber (digits : Nat)
  | unevenPair
  | unusable
deriving DecidableEq, Inhabited

/-- The wording of each reason; some have none. -/
def DocumentError.message? : DocumentError → Option String
  | refused error => some error.message
  | longNumber digits => some (unreadNumber digits)
  | unevenPair => none
  | unusable => none

end CodeSmells
