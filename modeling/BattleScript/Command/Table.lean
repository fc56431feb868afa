import BattleScript.Text.Width

/-!
The table that shows what a download wrote.
-/
namespace BattleScript.Command
open Text

structure Row where
  kind : Text
  count : Text
  file : Text
deriving DecidableEq, Repr

def tableHead : Row := ⟨"Kind", "Entries", "File"⟩

structure Widths where
  kind : Nat
  count : Nat
  file : Nat
deriving DecidableEq, Repr

def cellLines (t : Text) : List Text :=
  splitOn '\n' t

def widthsOf (rows : List Row) : Widths :=
  let widest (cell : Row → Text) : Nat :=
    (rows.flatMap fun r => (cellLines (cell r)).map width).foldl max 0 + 2
  ⟨widest Row.kind, widest Row.count, widest Row.file⟩

def cell (w : Nat) (right : Bool) (t : Text) : Text :=
  let fill := List.replicate (w - 2 - width t) ' '
  ' ' :: (if right then fill ++ t else t ++ fill) ++ [' ']

def border (w : Widths) (left middle right line : Char) : Text :=
  left :: List.replicate w.kind line ++ middle :: List.replicate w.count line ++
    middle :: List.replicate w.file line ++ [right]

def rowLine (w : Widths) (bar : Char) (r : Row) : Text :=
  bar :: cell w.kind false r.kind ++ bar :: cell w.count true r.count ++
    bar :: cell w.file false r.file ++ [bar]

def rowLines (w : Widths) (bar : Char) (r : Row) : List Text :=
  let kind := cellLines r.kind
  let count := cellLines r.count
  let file := cellLines r.file
  (List.range (max kind.length (max count.length file.length))).map fun n =>
    rowLine w bar ⟨kind.getD n [], count.getD n [], file.getD n []⟩

/-- The title over the middle of the table; an odd space goes to its right. -/
def titleLine (total : Nat) (title : Text) : Text :=
  let left := (total - title.length) / 2
  List.replicate left ' ' ++ title ++ List.replicate (total - title.length - left) ' '

def drawTable (title : Text) (rows : List Row) : Text :=
  let w := widthsOf (tableHead :: rows)
  let head := { tableHead with count := padRight (w.count - 2) tableHead.count }
  let lines :=
    [titleLine (w.kind + w.count + w.file + 4) title, border w '┏' '┳' '┓' '━', rowLine w '┃' head,
      border w '┡' '╇' '┩' '━'] ++ rows.flatMap (rowLines w '│') ++ [border w '└' '┴' '┘' '─']
  lines.flatMap fun l => l ++ ['\n']

end BattleScript.Command
