import BattleScript.Text.Basic

/-!
Actions: what a command does, told by its first word, and the argument in its parentheses.
-/
namespace BattleScript.Script
open Text

inductive ActionKind where
  | ability
  | change
  | quit
  | standby
  | capture
  | test
  | unknown
deriving DecidableEq, Repr

namespace ActionKind

def all : List ActionKind := [ability, change, quit, standby, capture, test, unknown]

def word : ActionKind → Text
  | ability => "ability"
  | change => "change"
  | quit => "quit"
  | standby => "standby"
  | capture => "catch"
  | test => "test"
  | unknown => "unknown"

def ofWord? (t : Text) : Option ActionKind :=
  all.find? fun k => k.word = t

def ofCommand (command : Text) : ActionKind :=
  if startsWith command "ability(" || startsWith command "use(" then ability
  else if startsWith command "change(" then change
  else if command = Text.of "quit" then quit
  else if command = Text.of "standby" then standby
  else if command = Text.of "catch" then capture
  else if startsWith command "test(" then test
  else unknown

end ActionKind

def untilClose (t : Text) : Option (Text × Text) :=
  match t.span (· ≠ ')') with
  | (c :: r, ')' :: rest) => some (c :: r, rest)
  | _ => none

/-- The text inside the first parenthesis pair that is not empty. -/
def arguments : Text → Option Text
  | [] => none
  | c :: r =>
    match (if c = '(' then untilClose r else none) with
    | some (inside, _) => some inside
    | none => arguments r

end BattleScript.Script
