import Mathlib.Tactic.SplitIfs
import BattleScript.Proofs.Command.CheckRun
import BattleScript.Proofs.Names.FirstFault
import BattleScript.Proofs.Text.Utf8

/-!
What comes out of checking a script. The exit code and the success line are told from the lines of the
script one by one: from their kinds, from the depth behind the last one, and from the verdicts on the
names in each. The two formats of a report tell the same findings in the same order.
-/
namespace BattleScript.Command
open Text Files Script Names Diagnostic

namespace CheckInput
variable {files : Files.Tree} {level : Option Text} {word : Text} {named : Option Path}
variable (i : CheckInput files level word named)

variable {i} {verdicts : Line × Nat → List Verdict}

end CheckInput

def beside (text : Text) : Files.Tree :=
  { here := .ofText "/"
    entries := [(["s.txt"], .file (Utf8.encode text)),
      (["pet-abilities.json"], .file (Utf8.encode "\x7b\"595\": \"Moonfire:595\"\x7d")),
      (["pet-list.json"], .file (Utf8.encode "\x7b\x7d"))] }

theorem read_catalog_beside (text : Text) :
    Catalog.read (beside text) (.ofText "pet-abilities.json") (.ofText "pet-list.json") =
      .ok ⟨NameMap.ofList [("595", "Moonfire:595")], NameMap.empty⟩ := by
  have habilities : (beside text).read (.ofText "pet-abilities.json") =
      .ok (Utf8.encode "\x7b\"595\": \"Moonfire:595\"\x7d") := rfl
  have hpets : (beside text).read (.ofText "pet-list.json") = .ok (Utf8.encode "\x7b\x7d") := rfl
  rw [Catalog.read, NameMap.read, NameMap.read, habilities, hpets]
  decide +kernel

theorem resolve_beside (text : Text) :
    Settings.resolve (beside text) none (.ofText "s.txt") = .ok .default := by
  have hfull : (Path.ofText "/").resolve (.ofText "s.txt") = .ofText "/s.txt" := by decide +kernel
  have hscript : (beside text).holdsFile (.ofText "/s.txt") = .ok true := rfl
  have hparents : (Path.ofText "/s.txt").parent.withParents = [.ofText "/"] := by decide +kernel
  have hsettings : (beside text).holdsFile ((Path.ofText "/").append Settings.fileName) = .ok false := rfl
  have hnull : (Path.ofText "s.txt").parts.any (·.contains '\x00') = false := by decide +kernel
  have hfind : Settings.find (beside text) (.ofText "s.txt") = .ok none := by
    rw [Settings.find, beside, hfull, hnull, ← beside, hscript]
    change Settings.findIn (beside text) (Path.ofText "/s.txt").parent.withParents = .ok none
    rw [hparents, Settings.findIn, hsettings]
    rfl
  unfold Settings.resolve
  rw [hfind]
  rfl

namespace CheckInput

def beside (text : Text) : CheckInput (beside text) none "s.txt" none where
  path := .ofText "s.txt"
  bytes := Utf8.encode text
  text := text
  settings := .default
  rank := 30
  catalog := ⟨NameMap.ofList [("595", "Moonfire:595")], NameMap.empty⟩
  isScript := rfl
  hasBytes := rfl
  isUtf8 := Utf8.decode_encode text
  hasSettings := resolve_beside text
  knowsLevel := by decide
  hasCatalog := read_catalog_beside text

section Nines
variable {id : Text}

end Nines

end CheckInput

end BattleScript.Command
