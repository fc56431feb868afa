import BattleScript.Proofs.Command.Findings
import BattleScript.Proofs.Command.Steps
import BattleScript.Proofs.Files.Writing

/-!
The run of a check whose files can all be read. Up to the names nothing but the log is written; then the
names decide between a crash and a report.
-/
namespace BattleScript.Command
open Text Files Script Names Diagnostic

/-- All that a check needs can be read: a script in UTF-8, the settings, the catalog that they name, and
a known log level. -/
structure CheckInput (files : Files.Tree) (level : Option Text) (word : Text) (named : Option Path) where
  path : Path
  bytes : Bytes
  text : Text
  settings : Settings
  rank : Nat
  catalog : Catalog
  isScript : scriptPath? files word = some path
  hasBytes : files.read path = .ok bytes
  isUtf8 : Utf8.decode bytes = .ok text
  hasSettings : Settings.resolve files named path = .ok settings
  knowsLevel : thresholdOf? ((level.map upper).getD settings.level) = some rank
  hasCatalog : Catalog.read files settings.abilities settings.pets = .ok catalog

def successLine (format : Text) : Text :=
  if format = Text.of "vscode" then "::notice: Validation successful\n" else "OK: script is valid.\n"

namespace CheckInput
variable {files : Files.Tree} {level : Option Text} {word : Text} {named : Option Path}
variable (i : CheckInput files level word named)

def lines : List Line := (splitOn '\n' i.text).map Line.ofText

def nodes : List Node := parseLines (splitOn '\n' i.text)

def log : Text := logText i.rank ((readLines (splitOn '\n' i.text)).2.map Note.record)

def screen (format : Text) (bad : List (Int × Verdict)) : Screen where
  files := files
  stdout := if (Node.problemsAll i.nodes).isEmpty && bad.isEmpty then successLine format else []
  stderr := i.log ++ written (report format i.path (shownLines i.bytes) (Node.problemsAll i.nodes) bad)
  threshold := some i.rank

theorem read_word : files.read (Path.ofText word) = .ok i.bytes := by
  have h := i.isScript
  unfold scriptPath? at h
  dsimp only at h
  split at h
  · split_ifs at h
    rw [Option.some.inj h]
    exact i.hasBytes
  · cases h

theorem read_named (i : CheckInput files level word named) {path : Path} (h : named = some path) :
    ∃ bytes, files.read path = .ok bytes := by
  subst h
  have hload : Settings.load files path = .ok i.settings := i.hasSettings
  unfold Settings.load at hload
  split at hload
  · rename_i bytes hread
    exact ⟨bytes, hread⟩
  · split_ifs at hload

theorem null_not_mem_of_read {path : Path} {bytes : Bytes} (h : files.read path = .ok bytes) :
    path.parts.any (·.contains '\x00') = false := by
  obtain ⟨place, hplace, -⟩ := Tree.read_eq_ok_iff.1 h
  unfold Tree.place at hplace
  split_ifs at hplace with hnull
  all_goals exact Bool.eq_false_iff.2 hnull

theorem badPath?_eq_none (i : CheckInput files level word named) (format : Text) :
    (Task.check word named format).badPath? = none := by
  refine List.find?_eq_none.2 fun path hpath => ?_
  obtain ⟨bytes, hread⟩ : ∃ bytes, files.read path = .ok bytes := by
    rcases List.mem_append.1 hpath with hnamed | hscript
    · exact i.read_named (Option.mem_toList.1 hnamed)
    · rw [List.mem_singleton.1 hscript]
      exact ⟨i.bytes, i.read_word⟩
  rw [null_not_mem_of_read hread]
  exact Bool.false_ne_true

theorem run_eq (env : Environment) (replies : List Download.Reply) {words : List Text} {format : Text}
    (h : Invocation.read env words = some (.task level (.check word named format))) :
    run files env replies words = .ofRun files (runCheck level i.path named format) := by
  rw [run, h]
  dsimp only
  rw [i.badPath?_eq_none format]
  dsimp only
  rw [runTask, withScript, i.isScript]

end CheckInput

end BattleScript.Command
