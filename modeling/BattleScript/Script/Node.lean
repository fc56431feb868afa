import BattleScript.Script.Condition

/-!
The syntax tree of a script. Only blocks have children; a structural error stands where the construct
that it is about would stand.
-/
namespace BattleScript.Script

structure Action where
  kind : ActionKind
  command : Text
  args : Option Text
  condition : Option Condition
  conditionRaw : Option Text
  indent : Nat
  line : Int
deriving DecidableEq, Repr

structure Head where
  condition : Condition
  conditionRaw : Text
  indent : Nat
  line : Int
  endLine : Option Int
deriving DecidableEq, Repr

inductive Node where
  | separator (indent : Nat)
  | action (a : Action)
  | error (message : Text) (line : Int)
  | block (head : Head) (children : List Node)
deriving Repr

structure Problem where
  message : Text
  line : Int
deriving DecidableEq, Repr

def Head.isClosed (h : Head) : Bool :=
  h.endLine.isSome

namespace Node

mutual

def problems : Node → List Problem
  | .error message line => [⟨message, line⟩]
  | .block _ children => problemsAll children
  | _ => []

def problemsAll : List Node → List Problem
  | [] => []
  | n :: ns => problems n ++ problemsAll ns

end

mutual

def heads : Node → List Head
  | .block head children => head :: headsAll children
  | _ => []

def headsAll : List Node → List Head
  | [] => []
  | n :: ns => heads n ++ headsAll ns

end

mutual

/-- Every node with its depth, each before those inside it. -/
def walk (depth : Nat) : Node → List (Nat × Node)
  | .block head children => (depth, .block head children) :: walkAll (depth + 1) children
  | n => [(depth, n)]

def walkAll (depth : Nat) : List Node → List (Nat × Node)
  | [] => []
  | n :: ns => walk depth n ++ walkAll depth ns

end

def conditionRaw? : Node → Option Text
  | .action a => a.conditionRaw
  | .block head _ => some head.conditionRaw
  | _ => none

end Node
end BattleScript.Script
