import BattleScript.Files.Path
import BattleScript.Text.Blank

/-!
Places in a script, shown with the lines around them. The line that a place is in is followed by a
mark under its column.
-/
namespace BattleScript.Diagnostic
open Text Files

structure Context where
  file : Path
  line : Int
  column : Int
  snippet : Option Text
deriving DecidableEq, Repr

/-- The items from index `first` up to `last`, where a negative `last` counts from the end. -/
def slice (xs : List α) (first : Nat) (last : Int) : List α :=
  let stop := if last < 0 then last + xs.length else last
  (xs.take stop.toNat).drop first

def firstColumn (line : Text) : Nat :=
  (line.takeWhile isBlank).length + 1

/-- Points at the first column of a line, with up to two lines on either side. -/
def Context.ofLines (file : Path) (lines : List Text) (line : Int) : Context :=
  let column := if 1 ≤ line then (lines[(line - 1).toNat]?.map firstColumn).getD 1 else 1
  let first := max 1 (line - 2)
  let last := min (lines.length : Int) (line + 2)
  { file, line, column
    snippet := if lines = [] then none else some (join ['\n'] (slice lines (first - 1).toNat last)) }

def gutter (number : Int) : Text :=
  padLeft 4 (ofInt number) ++ " | "

def mark (number column : Int) : Text :=
  List.replicate ((gutter number).length + column - 1).toNat ' ' ++ "^^^"

def numbered (marked column number : Int) : List Text → List Text
  | [] => []
  | l :: ls =>
    let rest := numbered marked column (number + 1) ls
    (gutter number ++ l) :: if number = marked then mark number column :: rest else rest

def Context.location (c : Context) : Text :=
  c.file.text ++ ':' :: ofInt c.line ++ ':' :: ofInt c.column

def Context.text (c : Context) : Text :=
  match c.snippet with
  | some (x :: xs) =>
    c.location ++ '\n' ::
      join ['\n'] (numbered c.line c.column (max 1 (c.line - 2)) (splitOn '\n' (x :: xs)))
  | _ => c.location

def Context.withMessage (c : Context) (message : Text) : Text :=
  c.text ++ '\n' :: message

end BattleScript.Diagnostic
