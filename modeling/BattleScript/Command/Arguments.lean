import BattleScript.Assoc
import BattleScript.Text.Basic

/-!
The words of a command line. Options may stand before, between and after the arguments of a command;
a double dash ends them.
-/
namespace BattleScript.Command
open Text

structure OptionSpec where
  long : Text
  short : Option Char
  takesValue : Bool
deriving DecidableEq, Repr

structure Parsed where
  options : List (Text × Option Text)
  arguments : List Text
deriving DecidableEq, Repr

namespace Parsed

def value? (p : Parsed) (long : Text) : Option Text :=
  p.options.reverse.findSome? fun o => if o.1 = long then o.2 else none

def has (p : Parsed) (long : Text) : Bool :=
  p.options.any fun o => o.1 = long

end Parsed

def findLong (specs : List OptionSpec) (name : Text) : Option OptionSpec :=
  specs.find? fun s => s.long = name

def findShort (specs : List OptionSpec) (c : Char) : Option OptionSpec :=
  specs.find? fun s => s.short = some c

def readLetters (specs : List OptionSpec) : Text → Option (List (Text × Option Text) × Option Text)
  | [] => some ([], none)
  | c :: r =>
    match findShort specs c with
    | none => none
    | some s =>
      if s.takesValue then
        if r = [] then some ([], some s.long) else some ([(s.long, some r)], none)
      else (readLetters specs r).map fun (options, waiting) => ((s.long, none) :: options, waiting)

def readLong (specs : List OptionSpec) (word : Text) :
    Option (List (Text × Option Text) × Option Text) :=
  match cutAt ['='] word with
  | some (name, value) =>
    match findLong specs name with
    | some s => if s.takesValue then some ([(s.long, some value)], none) else none
    | none => none
  | none =>
    match findLong specs word with
    | some s => if s.takesValue then some ([], some s.long) else some ([(s.long, none)], none)
    | none => none

def isOption : Text → Bool
  | '-' :: _ :: _ => true
  | _ => false

def readOption (specs : List OptionSpec) (word : Text) :
    Option (List (Text × Option Text) × Option Text) :=
  if startsWith word "--" then readLong specs word else readLetters specs word.tail

/-- Reads words in which an option named `needs` still waits for its value. With `mixed`, options may
follow arguments; without, the first argument ends them. Unknown options and missing values are
refused. -/
def readWords (specs : List OptionSpec) (mixed : Bool) : Option Text → List Text → Option Parsed
  | none, [] => some ⟨[], []⟩
  | some _, [] => none
  | some long, word :: words =>
    (readWords specs mixed none words).map fun p =>
      { p with options := (long, some word) :: p.options }
  | none, word :: words =>
    if word = Text.of "--" then some ⟨[], words⟩
    else if isOption word then
      match readOption specs word with
      | none => none
      | some (options, needs) =>
        (readWords specs mixed needs words).map fun p => { p with options := options ++ p.options }
    else if mixed then
      (readWords specs mixed none words).map fun p => { p with arguments := word :: p.arguments }
    else some ⟨[], word :: words⟩

end BattleScript.Command
