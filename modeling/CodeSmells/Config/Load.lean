import CodeSmells.Config.Document
import CodeSmells.Config.Toml.Reader
import CodeSmells.File.Tree

/-!
Settings from a configuration file. The file must be there, must be a file, and must hold a
well-formed document before the document itself is looked at.
-/

set_option autoImplicit false

namespace CodeSmells.Config

/-- The settings in the file at a path, given what stands there. -/
def load (path : String) : Option Content → Except DocumentError Settings
  | none => .error (.refused (.notFound path))
  | some .directory => .error (.refused (.unreadable path (FileError.isADirectory path).message))
  | some (.file bytes) =>
    match ((String.fromUTF8? bytes).elim (.error .malformed) Toml.read) with
    | .error .malformed => .error (.refused (.malformed path))
    | .error (.longNumber digits) => .error (.longNumber digits)
    | .ok doc => ofDocument doc

end CodeSmells.Config
