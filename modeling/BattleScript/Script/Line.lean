import BattleScript.Text.Blank

/-!
Lines of a script. The language is line oriented: each line is blank or a comment, a separator, the
head of an `if` block, its `endif`, or an action with an optional condition in brackets.
-/
namespace BattleScript.Script
open Text

inductive LineKind where
  | skip
  | separator
  | head (condition : Option Text)
  | endif
  | action (command : Text) (condition : Option Text)
deriving DecidableEq, Repr

structure Line where
  indent : Nat
  text : Text
  kind : LineKind
deriving DecidableEq, Repr

namespace Line

/-- The width of the leading spaces and tabs, where a tab counts four. -/
def indentOf : Text → Nat
  | ' ' :: r => 1 + indentOf r
  | '\t' :: r => 4 + indentOf r
  | _ => 0

def inBrackets : Text → Option Text
  | '[' :: r =>
    if r.getLast? = some ']' ∧ '\n' ∉ r.dropLast then some r.dropLast else none
  | _ => none

def headCondition (t : Text) : Option Text :=
  match after? "if" t with
  | some (c :: r) => if isBlank c then (inBrackets (trimLeft r)).map trim else none
  | _ => none

/-- Cuts a bracketed condition off the end of an action. The action takes as little as it can, but
at least one character, and stays on the first line. -/
def cutCondition : Text → Option (Text × Text)
  | [] => none
  | c :: r =>
    if c = '\n' then none
    else match inBrackets (trimLeft r) with
      | some condition => some ([c], condition)
      | none => (cutCondition r).map fun (command, condition) => (c :: command, condition)

def kindOf (t : Text) : LineKind :=
  if t = [] ∨ t.head? = some '#' then .skip
  else if t = Text.of "--" then .separator
  else if startsWith t "if " then .head (headCondition t)
  else if t = Text.of "endif" then .endif
  else match cutCondition t with
    | some (command, condition) => .action (trim command) (some (trim condition))
    | none => .action t none

def ofText (line : Text) : Line :=
  let line := trimRight line
  { indent := indentOf line, text := trim line, kind := kindOf (trim line) }

def isMalformedHead (l : Line) : Bool :=
  l.kind = .head none

end Line
end BattleScript.Script
