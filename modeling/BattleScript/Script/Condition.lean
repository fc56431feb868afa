import BattleScript.Text.Blank
import BattleScript.Script.Selector

/-!
Conditions: predicates joined by ` & `. A predicate compares a selector with a value, or is a bare
selector; a leading `!` negates it.
-/
namespace BattleScript.Script
open Text

inductive Operator where
  | notEquals
  | greaterEqual
  | lessEqual
  | notContains
  | contains
  | equals
  | greaterThan
  | lessThan
deriving DecidableEq, Repr

namespace Operator

def all : List Operator :=
  [notEquals, greaterEqual, lessEqual, notContains, contains, equals, greaterThan, lessThan]

def symbol : Operator → Text
  | notEquals => ['!', '=']
  | greaterEqual => ['>', '=']
  | lessEqual => ['<', '=']
  | notContains => ['!', '~']
  | contains => ['~']
  | equals => ['=']
  | greaterThan => ['>']
  | lessThan => ['<']

def ofSymbol? (t : Text) : Option Operator :=
  all.find? fun op => op.symbol = t

end Operator

structure Comparison where
  operator : Option Operator
  selector : Text
  value : Option Text
deriving DecidableEq, Repr

namespace Comparison

/-- The two sides of `op`, unless its first occurrence is at the very start. -/
def splitAt? (op : Operator) (t : Text) : Option Comparison :=
  match cutAt op.symbol t with
  | some (c :: left, right) => some ⟨some op, trim (c :: left), some (trim right)⟩
  | _ => none

def ofText (t : Text) : Comparison :=
  (Operator.all.findSome? fun op => splitAt? op t).getD ⟨none, trim t, none⟩

end Comparison

structure Predicate where
  raw : Text
  selectorRaw : Text
  negated : Bool
  operator : Option Operator
  value : Option Text
  selector : Option Selector
deriving DecidableEq, Repr

namespace Predicate

def cutNegation : Text → Bool × Text
  | '!' :: r => (true, r)
  | t => (false, t)

def ofText (raw : Text) : Predicate :=
  let (negated, body) := cutNegation (trim raw)
  let c := Comparison.ofText body
  { raw := trim raw, selectorRaw := c.selector, negated, operator := c.operator, value := c.value,
    selector := Selector.ofText? c.selector }

def isBoolean (p : Predicate) : Bool :=
  p.operator.isNone

end Predicate

structure Condition where
  raw : Text
  predicates : List Predicate
deriving DecidableEq, Repr

namespace Condition

def splitAnd : Text → List Text
  | ' ' :: '&' :: ' ' :: r => [] :: splitAnd r
  | c :: r => consHead c (splitAnd r)
  | [] => [[]]

def ofText (raw : Text) : Condition :=
  { raw := trim raw, predicates := (splitAnd (trim raw)).map Predicate.ofText }

def isCompound (c : Condition) : Bool :=
  c.predicates.length > 1

end Condition
end BattleScript.Script
