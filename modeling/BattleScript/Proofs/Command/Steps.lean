import Mathlib.Tactic.SplitIfs
import BattleScript.Command.Run

/-!
Steps of commands. A step that succeeds gives a result and leaves a screen, one that fails ends the run;
for each step of a command it is said what it adds to the two streams.
-/
namespace BattleScript.Command
open Text Files Script Names Diagnostic

namespace Run

/-- From `s` on, the run gives `a` and leaves `s'`. -/
def Gives (x : Run α) (s : Screen) (a : α) (s' : Screen) : Prop :=
  x s = .ok a s'

/-- From `s` on, the run ends early and leaves `s'`. -/
def Stops (x : Run α) (s : Screen) (e : Stop) (s' : Screen) : Prop :=
  x s = .error e s'

section
variable {x : Run α} {s s' s'' : Screen} {a : α} {b : β} {e : Stop}

theorem Gives.bind_eq (h : x.Gives s a s') (f : α → Run β) : (x >>= f) s = f a s' := by
  change EStateM.bind x f s = f a s'
  rw [EStateM.bind, show x s = .ok a s' from h]

theorem Gives.bind {f : α → Run β} (h : x.Gives s a s') (hf : (f a).Gives s' b s'') :
    (x >>= f).Gives s b s'' :=
  (h.bind_eq f).trans hf

theorem Stops.bind (h : x.Stops s e s') (f : α → Run β) : (x >>= f).Stops s e s' := by
  change EStateM.bind x f s = .error e s'
  rw [EStateM.bind, show x s = .error e s' from h]

end
end Run

def Screen.told (s : Screen) (t : Text) : Screen :=
  { s with stderr := s.stderr ++ t }

def logText (rank : Nat) (records : List LogRecord) : Text :=
  records.flatMap fun r => if rank ≤ r.severity.rank then r.text ++ ['\n'] else []

def written (messages : List Text) : Text :=
  messages.flatMap fun t => dropStyling 0 t ++ ['\n']

section Steps
variable {s : Screen} {rank : Nat}

end Steps

end BattleScript.Command
