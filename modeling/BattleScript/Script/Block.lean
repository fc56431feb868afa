import BattleScript.Log
import BattleScript.Script.Line
import BattleScript.Script.Node
import BattleScript.Text.Quoted

/-!
Reading lines into a tree. Blocks are matched by a stack of open heads and not by indentation. Content
never fails: a malformed head, and a block without its `endif`, become error nodes. Blocks may be open in
any number: a limit on the depth of recursion is not part of the reading.
-/
namespace BattleScript.Script
open Text

inductive Note where
  | strayEndif (line : Nat)
  | malformedHead (line : Nat) (text : Text)
  | unterminated (line : Nat)
deriving DecidableEq, Repr

structure OpenBlock where
  condition : Text
  indent : Nat
  line : Nat
  before : List Node
deriving Repr

/-- The nodes read at the present depth, the open blocks from the inside out, and the notes. -/
structure Reading where
  nodes : List Node
  opened : List OpenBlock
  notes : List Note
deriving Repr

def malformedMessage : Text := "Invalid if statement"

def unterminatedMessage (line : Nat) : Text :=
  "Unterminated if block (opened at line " ++ ofNat line ++ ")"

def Action.ofCommand (command : Text) (condition : Option Text) (indent line : Nat) : Action :=
  { kind := ActionKind.ofCommand command
    command
    args := arguments command
    condition := condition.map Condition.ofText
    conditionRaw := condition
    indent
    line }

def OpenBlock.close (o : OpenBlock) (children : List Node) (endLine : Option Nat) : Node :=
  .block {
    condition := Condition.ofText o.condition
    conditionRaw := o.condition
    indent := o.indent
    line := o.line
    endLine := endLine.map Int.ofNat } children

namespace Reading

def start : Reading := ⟨[], [], []⟩

def push (s : Reading) (n : Node) : Reading :=
  { s with nodes := s.nodes ++ [n] }

def note (s : Reading) (n : Note) : Reading :=
  { s with notes := s.notes ++ [n] }

/-- Reads one line. An `endif` closes the innermost open block, whatever its indent. -/
def step (s : Reading) (number : Nat) (l : Line) : Reading :=
  match l.kind with
  | .skip => s
  | .separator => s.push (.separator l.indent)
  | .head none => (s.push (.error malformedMessage number)).note (.malformedHead number l.text)
  | .head (some condition) =>
    { s with nodes := [], opened := ⟨condition, l.indent, number, s.nodes⟩ :: s.opened }
  | .endif =>
    match s.opened with
    | [] => s.note (.strayEndif number)
    | o :: os => { s with nodes := o.before ++ [o.close s.nodes (some number)], opened := os }
  | .action command condition => s.push (.action (Action.ofCommand command condition l.indent number))

def run (s : Reading) (number : Nat) : List Line → Reading
  | [] => s
  | l :: ls => run (s.step number l) (number + 1) ls

def unwind (nodes : List Node) (notes : List Note) : List OpenBlock → List Node × List Note
  | [] => (nodes, notes)
  | o :: os =>
    unwind (o.before ++ [o.close nodes none, .error (unterminatedMessage o.line) o.line])
      (notes ++ [.unterminated o.line]) os

def finish (s : Reading) : List Node × List Note :=
  unwind s.nodes s.notes s.opened

end Reading

def logSource : Text := "petscript.core.parser"

def Note.message : Note → Text
  | .strayEndif line => "Ignoring endif without matching if at line " ++ ofNat line
  | .malformedHead line text => "Invalid if statement at line " ++ ofNat line ++ ": " ++ quoted text
  | .unterminated line => "if block at line " ++ ofNat line ++ " has no endif"

def Note.record (n : Note) : LogRecord :=
  ⟨.debug, logSource, n.message⟩

def readLines (lines : List Text) : List Node × List Note :=
  ((Reading.start).run 1 (lines.map Line.ofText)).finish

def parseLines (lines : List Text) : List Node :=
  (readLines lines).1

def parseText (script : Text) : List Node :=
  parseLines (splitOn '\n' script)

end BattleScript.Script
