import CodeSmells.CommandLine.Session
import Std.Time

/-!
The command line. The files that a command may look at are read first; what the command has written
is stored at the end. All decisions are made in between, without input or output.
-/

set_option autoImplicit false

namespace CodeSmells.CommandLine

/-- The paths that a command reads or writes. -/
def Command.paths : Command → List String
  | .analyze project config output _ => project :: config.toList ++ output.toList
  | .generateConfig path _ => [path]
  | _ => []

/-- Adds what stands at a path, and below it, to the entries read so far. -/
partial def readEntries (names : List String) (path : String) (found : List FileEntry) :
    IO (List FileEntry) := do
  let real ← try some <$> IO.FS.realPath path catch _ => pure none
  match real with
  | none => return found
  | some place =>
    if ← place.isDir then
      let mut all := ⟨names, .directory⟩ :: found
      for entry in ← place.readDir do
        all ← readEntries (names ++ [entry.fileName]) (path ++ "/" ++ entry.fileName) all
      return all
    else if ← place.pathExists then
      let bytes ← try some <$> IO.FS.readBinFile place catch _ => pure none
      return match bytes with
        | some bytes => ⟨names, .file bytes⟩ :: found
        | none => found
    else return found

/-- The names of the directory in which the program was started. -/
def currentNames : IO (List String) := do
  return (Path.ofText (← IO.currentDir).toString).names

/-- Names without two dots, each pair of which takes the name before it away; `front` holds the names
read so far, reversed. -/
def withoutDots (front : List String) : List String → List String
  | [] => front.reverse
  | n :: ns => if n == ".." then withoutDots (front.drop 1) ns else withoutDots (n :: front) ns

/-- Whether a directory stands at a path. -/
def isDirectory (path : String) : IO Bool := do
  try (← IO.FS.realPath path).isDir catch _ => pure false

/-- The workspace of a command: the files that it may look at, and the directories on the way to
them. -/
def readWorkspace (args : List String) : IO Workspace := do
  let directory ← currentNames
  let paths := ((Command.ofArguments? args).map Command.paths).getD []
  let start := Workspace.ofFiles directory []
  let mut found := start.files
  for path in paths.map Path.ofText do
    for n in List.range path.names.length do
      let front : Path := ⟨path.root, path.names.take n⟩
      if ← isDirectory front.text then
        found := ⟨withoutDots [] (start.fullNames front), .directory⟩ :: found
    found ← readEntries (withoutDots [] (start.fullNames path)) path.text found
  return ⟨directory, found.foldl (fun tree e => tree.put e.names e.content) []⟩

/-- Stores a file and makes the directories on the way to it. -/
def store (e : FileEntry) : IO Unit := do
  match e.content with
  | .directory => pure ()
  | .file bytes =>
    IO.FS.createDirAll ("/" ++ String.intercalate "/" e.names.dropLast)
    IO.FS.writeBinFile ("/" ++ String.intercalate "/" e.names) bytes

end CodeSmells.CommandLine

open CodeSmells.CommandLine in
/-- Runs the command that the arguments ask for. -/
def main (args : List String) : IO UInt32 := do
  let started ← IO.monoMsNow
  let workspace ← readWorkspace args
  let now ← Std.Time.PlainDateTime.now
  let day : CodeSmells.CalendarDay :=
    ⟨now.date.year.toNat, now.date.month.val.toNat, now.date.day.val.toNat⟩
  let clock : CodeSmells.ClockTime :=
    ⟨now.time.hour.val.toNat, now.time.minute.val.toNat, now.time.second.val.toNat, 0⟩
  let elapsed := CodeSmells.Quantity.ratio ((← IO.monoMsNow) - started) 1000
  let reply := run workspace (CodeSmells.Report.runStamp day clock) elapsed args
  try
    for entry in reply.workspace.files.changesSince workspace.files do
      store entry
    IO.print reply.output
    return UInt32.ofNat reply.exitCode
  catch e =>
    IO.println ("✗ Cannot write report: " ++ toString e)
    return 1
