import BattleScript.Command.Markup
import BattleScript.Text.Width

/-!
Outlines: trees of labels drawn with lines. An outline can be built from labels with their depths, with
one address kept for each depth.
-/
namespace BattleScript.Command
open Text

inductive Branch where
  | node (label : Text) (children : List Branch)
deriving Repr

namespace Branch

/-- Adds a label below the branch at an address, behind what is there; also gives its place among its
siblings. -/
def addBelow? (label : Text) : List Nat → List Branch → Option (List Branch × Nat)
  | [], bs => some (bs ++ [.node label []], bs.length)
  | i :: address, bs =>
    match bs[i]? with
    | some (.node l children) =>
      (addBelow? label address children).map fun (children, k) => (bs.set i (.node l children), k)
    | none => none

def label : Branch → Text
  | .node l _ => l

def labelLines (mark continued : Text) (label : Text) : List Text :=
  match splitOn '\n' label with
  | [] => []
  | first :: others => (mark ++ first) :: others.map (continued ++ ·)

mutual

def lines (lead : Text) : List Branch → List Text
  | [] => []
  | [b] =>
    labelLines (lead ++ "└── ") (lead ++ "    ") b.label ++ b.childLines (lead ++ "    ")
  | b :: bs =>
    labelLines (lead ++ "├── ") (lead ++ "│   ") b.label ++ b.childLines (lead ++ "│   ") ++
      lines lead bs

def childLines (lead : Text) : Branch → List Text
  | .node _ children => lines lead children

end

end Branch

/-- An outline that is being built, and the addresses of the branches that more can be added to: at first
only that of the outline itself, later that of the last branch at each depth. -/
structure Building where
  branches : List Branch
  addresses : List (List Nat)

namespace Building

def start : Building := ⟨[], [[]]⟩

def add? (b : Building) (depth : Nat) (label : Text) : Option Building :=
  let kept := b.addresses.take (depth + 1)
  match kept[depth]? with
  | none => none
  | some address =>
    (Branch.addBelow? label address b.branches).map fun (branches, k) =>
      ⟨branches, kept ++ [address ++ [k]]⟩

def addAll? (b : Building) : List (Nat × Text) → Option Building
  | [] => some b
  | (depth, label) :: labels =>
    match b.add? depth label with
    | some b => b.addAll? labels
    | none => none

end Building

def expandTabs (column : Nat) : List Text → Text
  | [] => []
  | [part] => part
  | part :: parts =>
    let reached := column + width (part ++ [' '])
    let fill := (8 - reached % 8) % 8
    part ++ ' ' :: List.replicate fill ' ' ++ expandTabs (reached + fill) parts

def shown (markup : Text) : Text :=
  join ['\n'] ((splitOn '\n' (Markup.text markup)).map fun line => expandTabs 0 (splitOn '\t' line))

def drawOutline (title : Text) (branches : List Branch) : Text :=
  (title :: Branch.lines [] branches).flatMap fun l => l ++ ['\n']

end BattleScript.Command
