import BattleScript.Text.Basic

/-!
Line ends. Text files may end lines with a carriage return, a line feed or both; reading one turns
each into a line feed.
-/
namespace BattleScript.Text

def unifyNewlines : Text → Text
  | [] => []
  | '\r' :: '\n' :: r => '\n' :: unifyNewlines r
  | c :: r => (if c = '\r' then '\n' else c) :: unifyNewlines r

theorem unifyNewlines_eq_self {t : Text} (h : '\r' ∉ t) : unifyNewlines t = t := by
  induction t with
  | nil => rfl
  | cons c r ih =>
    obtain ⟨hc, hr⟩ := not_or.1 (mt List.mem_cons.2 h)
    rw [unifyNewlines, if_neg (Ne.symm hc), ih hr]
    rintro _ rfl
    exact absurd rfl hc

end BattleScript.Text
