import BattleScript.Command.Styling

/-!
Taking styling out of a message. A styling sequence holds no blank, colon or line end, so the parts of a
message that are kept apart by these lose their styling each on its own.
-/
namespace BattleScript.Command
open Text

section
variable {b c : Char} {r t u : Text} {n : Nat}

end

end BattleScript.Command
