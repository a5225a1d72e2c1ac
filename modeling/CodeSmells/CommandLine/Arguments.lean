import CodeSmells.Text.Word

/-!
Arguments of a command: options with a value, flags and positional arguments. A value may stand in
the next argument or be attached, after an equals sign to a long name and directly to a short one.
Flags with short names may be joined. Two hyphens end the options.
-/

set_option autoImplicit false

namespace CodeSmells.CommandLine

/-- An option of a command. -/
structure OptionSpec where
  long : String
  short : Option Char := none
  takesValue : Bool := false
deriving DecidableEq, Inhabited

/-- The arguments of a command, sorted out: options in order, then the positional ones. -/
structure Arguments where
  options : List (String × Option String) := []
  positional : List String := []
deriving DecidableEq, Inhabited

namespace Arguments

/-- Whether a flag is given. -/
def hasFlag (a : Arguments) (name : String) : Bool :=
  a.options.any fun o => o.1 == name

/-- The value of an option; the last one counts. -/
def value? (a : Arguments) (name : String) : Option String :=
  ((a.options.reverse.find? fun o => o.1 == name).bind (·.2))

end Arguments

/-- What one argument says: options, and the option that waits for its value in the next one. -/
structure OptionArgument where
  options : List (String × Option String) := []
  awaited : Option String := none

/-- Reads joined short options; nothing when one is unknown. -/
def joined? (specs : List OptionSpec) : List Char → Option OptionArgument
  | [] => some {}
  | c :: cs => do
    let spec ← specs.find? fun s => s.short == some c
    if !spec.takesValue then
      let rest ← joined? specs cs
      return { rest with options := (spec.long, none) :: rest.options }
    else if cs.isEmpty then return { awaited := some spec.long }
    else return { options := [(spec.long, some (String.ofList cs))] }

/-- The name of a long option and the value after an equals sign. -/
def splitValue (arg : String) : String × Option String :=
  let cs := arg.toList
  (String.ofList (cs.takeWhile (· != '=')),
    if cs.contains '=' then some (String.ofList ((cs.dropWhile (· != '=')).drop 1)) else none)

/-- Reads an argument that starts with a hyphen; nothing when it fits no option. -/
def optionArgument? (specs : List OptionSpec) (arg : String) : Option OptionArgument :=
  let (name, attached) := splitValue arg
  match specs.find? fun s => s.long == name with
  | some spec =>
    match spec.takesValue, attached with
    | true, some v => some { options := [(name, some v)] }
    | true, none => some { awaited := some name }
    | false, none => some { options := [(name, none)] }
    | false, some _ => none
  | none => if arg.startsWith "--" then none else joined? specs (arg.toList.drop 1)

/-- Whether an argument is an option rather than a positional one. -/
def isOption (arg : String) : Bool :=
  match arg.toList with
  | '-' :: _ :: _ => true
  | _ => false

/-- Sorts out arguments, the first of which is the value of the awaited option if there is one.
Where `mixed` does not hold, all from the first positional argument on are positional. -/
def sortOut (specs : List OptionSpec) (mixed : Bool) (awaited : Option String) :
    List String → Option Arguments
  | [] => if awaited.isSome then none else some {}
  | arg :: rest =>
    match awaited with
    | some name => do
      let a ← sortOut specs mixed none rest
      return { a with options := (name, some arg) :: a.options }
    | none =>
      if arg == "--" then some { positional := rest }
      else if isOption arg then do
        let found ← optionArgument? specs arg
        let a ← sortOut specs mixed found.awaited rest
        return { a with options := found.options ++ a.options }
      else if mixed then do
        let a ← sortOut specs mixed none rest
        return { a with positional := arg :: a.positional }
      else some { positional := arg :: rest }

/-- What the program is asked to do. -/
inductive Command where
  | version
  | help
  | analyze (project : String) (config output format : Option String)
  | generateConfig (path : String) (force : Bool)
  | listDetectors
deriving DecidableEq, Inhabited

/-- The name of the configuration file that belongs to a project. -/
def configFile : String := "gdsmell.toml"

/-- The option that every command has. -/
def helpOption : OptionSpec := { long := "--help" }

/-- The options before the name of a command. -/
def programOptions : List OptionSpec :=
  [{ long := "--version", short := some 'V' }, helpOption]

/-- The options for an analysis. -/
def analyzeOptions : List OptionSpec :=
  [{ long := "--config", short := some 'c', takesValue := true },
   { long := "--output", short := some 'o', takesValue := true },
   { long := "--format", short := some 'f', takesValue := true },
   { long := "--verbose" }, helpOption]

/-- The options for writing a configuration. -/
def generateOptions : List OptionSpec :=
  [{ long := "--force" }, helpOption]

/-- The arguments of a command as a command; nothing when they do not fit. -/
def commandOf? (name : String) (rest : List String) : Option Command :=
  let ask (specs : List OptionSpec) (make : Arguments → Option Command) : Option Command := do
    let a ← sortOut specs true none rest
    if a.hasFlag "--help" then return .help else make a
  match name with
  | "analyze" => ask analyzeOptions fun a =>
    match a.positional with
    | [project] =>
      some (.analyze project (a.value? "--config") (a.value? "--output") (a.value? "--format"))
    | _ => none
  | "generate-config" => ask generateOptions fun a =>
    match a.positional with
    | [] => some (.generateConfig configFile (a.hasFlag "--force"))
    | [path] => some (.generateConfig path (a.hasFlag "--force"))
    | _ => none
  | "list-detectors" => ask [helpOption] fun a =>
    if a.positional.isEmpty then some .listDetectors else none
  | _ => none

/-- The command that the arguments ask for; nothing when they do not fit. -/
def Command.ofArguments? (args : List String) : Option Command := do
  let a ← sortOut programOptions false none args
  match a.options, a.positional with
  | (option, _) :: _, _ => return if option == "--version" then .version else .help
  | [], name :: rest => commandOf? name rest
  | [], [] => none

end CodeSmells.CommandLine
