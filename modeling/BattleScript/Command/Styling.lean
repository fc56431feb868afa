import BattleScript.Text.Basic

/-!
Styling sequences of terminals: an escape character, an opening bracket, parameters and one letter.
They are taken out of messages, because no stream here is a terminal.
-/
namespace BattleScript.Command
open Text

def isParameter (c : Char) : Bool :=
  ('0' ≤ c && c ≤ '9') || c = ';' || c = '?'

def parametersLength? : Text → Option Nat
  | [] => none
  | c :: r =>
    if isParameter c then (parametersLength? r).map (· + 1)
    else if c.isAlpha then some 1
    else none

def stylingLength? : Text → Option Nat
  | '\x1b' :: '[' :: r => (parametersLength? r).map (· + 2)
  | _ => none

/-- The text without its styling sequences, where `skip` characters of one are still to be passed. -/
def dropStyling (skip : Nat) (t : Text) : Text :=
  match skip, t with
  | _, [] => []
  | n + 1, _ :: r => dropStyling n r
  | 0, c :: r =>
    match stylingLength? (c :: r) with
    | some n => dropStyling (n - 1) r
    | none => c :: dropStyling 0 r

end BattleScript.Command
