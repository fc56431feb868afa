import BattleScript.Text.Basic

/-!
Paths of files: an anchor, which is empty for relative paths, and the names below it. Empty names and
single dots are dropped when a path is read; double dots are kept.
-/
namespace BattleScript.Files
open Text

structure Path where
  anchor : Text
  parts : List Text
deriving DecidableEq, Repr

namespace Path

def anchorOf (t : Text) : Text :=
  match (t.takeWhile (· = '/')).length with
  | 0 => []
  | 2 => ['/', '/']
  | _ => ['/']

def ofText (t : Text) : Path :=
  { anchor := anchorOf t
    parts := (splitOn '/' t).filter fun p => p ≠ [] && p ≠ ['.'] }

def text (p : Path) : Text :=
  if p.anchor = [] ∧ p.parts = [] then ['.'] else p.anchor ++ join ['/'] p.parts

/-- The path `q` as seen from `p`; an anchored `q` stands for itself. -/
def append (p q : Path) : Path :=
  if q.anchor = [] then { p with parts := p.parts ++ q.parts } else q

def parent (p : Path) : Path :=
  { p with parts := p.parts.dropLast }

def name (p : Path) : Text :=
  p.parts.getLast?.getD []

def collapse : List Text → List Text → List Text
  | seen, [] => seen.reverse
  | seen, p :: ps => if p = ['.', '.'] then collapse seen.tail ps else collapse (p :: seen) ps

/-- The anchored path that `p` stands for in directory `here`, without double dots. -/
def resolve (here p : Path) : Path :=
  let full := here.append p
  { full with parts := collapse [] full.parts }

def withParents (p : Path) : List Path :=
  (List.range (p.parts.length + 1)).map fun n => { p with parts := p.parts.take (p.parts.length - n) }

end Path
end BattleScript.Files
