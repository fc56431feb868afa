import BattleScript.Command.Invocation
import BattleScript.Settings

/-!
The paths that a command line looks at. The catalog is known only once the settings have been seen, so
the list grows with the files that are already known.
-/
namespace BattleScript.Command
open Text Files

def settingsPaths (here : Path) (named : Option Path) (start : Path) : List Path :=
  match named with
  | some path => [path]
  | none => (here.resolve start).withParents.map fun d => d.append Settings.fileName

def catalogPaths (files : Files.Tree) (named : Option Path) (start : Path) : List Path :=
  match Settings.resolve files named start with
  | .ok s => [s.abilities, s.pets]
  | .error _ => []

def namePaths (files : Files.Tree) (named : Option Path) (start : Path) : List Path :=
  settingsPaths files.here named start ++ catalogPaths files named start

def Task.paths (files : Files.Tree) : Task → List Path
  | .parse script _ => [Path.ofText script]
  | .describe script named _ => Path.ofText script :: namePaths files named (Path.ofText script)
  | .check script named _ => Path.ofText script :: namePaths files named (Path.ofText script)
  | .fetchNames _ _ named => namePaths files named files.here

/-- All that a command line looks at, as far as the known files tell. -/
def paths (files : Files.Tree) (env : Environment) (words : List Text) : List Path :=
  match Invocation.read env words with
  | some (.task _ t) => t.paths files
  | _ => []

end BattleScript.Command
