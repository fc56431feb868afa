import Mathlib.Data.List.Forall2
import BattleScript.Command.Run
import BattleScript.Proofs.Command.Styling
import BattleScript.Proofs.Names.LineVerdicts
import BattleScript.Proofs.Script.Accounting

/-!
Findings and the two ways of reporting them. A finding has a severity, a line and a message. A report in
words begins with the severity and a report for an editor with the place, and both tell the same findings
in the same order. What there is to find is told by the lines of a script one by one.
-/
namespace BattleScript.Command
open Text Files Script Names Diagnostic

structure Finding where
  isError : Bool
  line : Int
  message : Text

namespace Finding

def ofVerdict (v : Int × Verdict) : Finding :=
  ⟨isMismatch v.2, v.1, v.2.text⟩

def severity (error warning : String) (f : Finding) : Text :=
  Text.of (if f.isError then error else warning)

def place (script : Path) (f : Finding) (column : Int) : Text :=
  dropStyling 0 script.text ++ ':' :: ofInt f.line ++ ':' :: ofInt column

end Finding

def report (format : Text) (script : Path) (lines : List Text) (problems : List Problem)
    (verdicts : List (Int × Verdict)) : List Text :=
  if format = Text.of "vscode" then editorReport script lines problems verdicts
  else humanReport script lines problems verdicts

section Styling

end Styling

section Entries
variable (script : Path) (lines : List Text)

end Entries

section Lines

def reported (ls : List Line) (verdicts : Line × Nat → List Verdict) : List (Int × Verdict) :=
  (ls.zipIdx 1).flatMap fun p => ((verdicts p).filter Verdict.isProblem).map fun v => ((p.2 : Int), v)

variable {ls : List Line} {verdicts : Line × Nat → List Verdict}

end Lines

end BattleScript.Command
