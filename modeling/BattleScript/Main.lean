import BattleScript.Command.Inputs
import BattleScript.Command.Run

/-!
The command line: it looks at the files that a run needs, runs it on them, prints the two streams, and
stores what has changed. There is no transport, so a download ends with a failed request.
-/
namespace BattleScript.CommandLine
open Files

def pathText (place : Place) : String :=
  String.ofList (Path.text ⟨['/'], place⟩)

def look (place : Place) : IO (Option Entry) := do
  match ← (IO.FS.readBinFile (pathText place)).toBaseIO with
  | .ok bytes => return some (.file bytes.toList)
  | .error (.inappropriateType ..) => return some .directory
  | .error _ => return none

/-- Adds a path, and every directory on the way to it, to the known files. -/
def addPath (files : Files.Tree) (p : Path) : IO Files.Tree := do
  let full := (files.here.append p).parts
  let mut files := files
  for n in List.range full.length do
    let place := Path.collapse [] (full.take (n + 1))
    if (files.at? place).isNone then
      if let some entry ← look place then
        files := files.put place entry
  return files

def addPaths (files : Files.Tree) (paths : List Path) : IO Files.Tree :=
  paths.foldlM addPath files

def store (known after : Files.Tree) : IO Unit := do
  for (place, entry) in after.entries do
    if known.at? place ≠ some entry then
      match entry with
      | .directory => IO.FS.createDirAll (pathText place)
      | .file content => IO.FS.writeBinFile (pathText place) ⟨content.toArray⟩

def environment : IO Command.Environment :=
  Command.variableNames.filterMapM fun name => do
    return (← IO.getEnv (String.ofList name)).map fun value => (name, value.toList)

def run (words : List Text) : IO UInt32 := do
  let here := Path.ofText (← IO.currentDir).toString.toList
  let env ← environment
  let files ← addPath { here, entries := [] } here
  let files ← addPaths files (Command.paths files env words)
  let files ← addPaths files (Command.paths files env words)
  let outcome := Command.run files env [] words
  store files outcome.files
  IO.print (String.ofList outcome.stdout)
  IO.eprint (String.ofList outcome.stderr)
  if let some crash := outcome.crash then
    IO.eprintln (String.ofList crash.message)
  return outcome.code.toUInt32

end BattleScript.CommandLine

def main (args : List String) : IO UInt32 :=
  BattleScript.CommandLine.run (args.map String.toList)
