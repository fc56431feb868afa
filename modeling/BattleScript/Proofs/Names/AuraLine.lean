import Mathlib.Algebra.Group.Nat.Defs
import BattleScript.Proofs.Names.DigitLimit
import BattleScript.Proofs.Script.Brackets
import BattleScript.Proofs.Script.Conjunction
import BattleScript.Proofs.Script.SelectorText

/-!
A line that asks for an aura by its id, from its text to the reference that it makes. The id may have any
number of digits; with as many nines as the limit allows, the id after it is the first beyond the limit.
-/
namespace BattleScript.Text

end BattleScript.Text

namespace BattleScript.Script
open Text

end BattleScript.Script

namespace BattleScript.Names
open Text Script

def auraCondition (id : Text) : Text :=
  "self.aura(" ++ (id ++ Text.of ").up")

section
variable {id : Text}

theorem isNumericId_iff : isNumericId id = true ↔ id ≠ [] ∧ ∀ c ∈ id, isAsciiDigit c = true := by
  rw [isNumericId, Bool.and_eq_true, decide_eq_true_eq, List.all_eq_true]

theorem not_mem_of_isNumericId (hid : isNumericId id = true) {c : Char} (hc : isAsciiDigit c = false) :
    c ∉ id := by
  intro h
  rw [(isNumericId_iff.1 hid).2 c h] at hc
  cases hc

theorem namedId_of_isNumericId (hid : isNumericId id = true) : NamedId.ofText id = ⟨none, id⟩ := by
  rw [NamedId.ofText, splitOn_of_not_mem (not_mem_of_isNumericId hid (by decide))]

theorem decimalValue_nines (n : Nat) : Json.decimalValue (List.replicate n '9') + 1 = 10 ^ n := by
  induction n with
  | zero => rfl
  | succ n ih =>
    have hlast : Json.decimalValue (List.replicate (n + 1) '9') =
        10 * Json.decimalValue (List.replicate n '9') + 9 := by
      rw [List.replicate_succ', Json.decimalValue, List.foldl_append]
      rfl
    rw [hlast, Nat.pow_succ, ← ih]
    omega

theorem isNumericId_nines {n : Nat} (hn : n ≠ 0) : isNumericId (List.replicate n '9') = true := by
  refine isNumericId_iff.2 ⟨fun h => hn ((List.replicate_eq_nil_iff _).1 h), fun c hc => ?_⟩
  rw [List.eq_of_mem_replicate hc]
  rfl

theorem length_after_nines :
    Json.digitLimit < (ofNat (Json.decimalValue (List.replicate Json.digitLimit '9') + 1)).length := by
  rw [decimalValue_nines, ofNat, ← not_le, Nat.length_toDigits_le_iff (by decide) (by decide)]
  exact lt_irrefl _

theorem beyondLimit_nines : (⟨.aura, List.replicate Json.digitLimit '9'⟩ : Reference).BeyondLimit := by
  have hid : isNumericId (List.replicate Json.digitLimit '9') = true := isNumericId_nines (by decide)
  have hslot : (List.replicate Json.digitLimit '9').head? ≠ some '#' := fun h =>
    not_mem_of_isNumericId hid (by decide) (List.mem_of_head? h)
  refine ⟨rfl, hslot, ?_⟩
  dsimp only
  rw [namedId_of_isNumericId hid]
  exact ⟨hid, .inr length_after_nines⟩

end

end BattleScript.Names
