import BattleScript.Text.Pictograph

/-!
Markup: text with style tags in brackets. A backslash in front of a tag makes it plain text. No stream
here is a terminal, so styles do not show, and what is left of a markup is its plain text.
-/
namespace BattleScript.Command.Markup
open Text

def isTagStart (c : Char) : Bool :=
  ('a' ≤ c && c ≤ 'z') || c = '#' || c = '/' || c = '@'

def tagOf? : Text → Option (Text × Text)
  | [] => none
  | c :: r =>
    if isTagStart c then
      match r.span (· ≠ ']') with
      | (inside, ']' :: rest) => some (c :: inside, rest)
      | _ => none
    else none

def cutBackslashes (t : Text) : Text × Nat :=
  let n := (t.reverse.takeWhile (· = '\\')).length
  (t.take (t.length - n), n)

def bracketed (tag : Text) : Text :=
  '[' :: tag ++ [']']

def backslashes (n : Nat) : Text :=
  List.replicate n '\\'

inductive Piece where
  | plain (t : Text)
  | tag (text : Text) (position : Nat)
deriving DecidableEq, Repr

/-- The pieces of a markup, where `before` has been read since the last tag and ends at `position`,
and the parts follow one opening bracket each. -/
def piecesFrom (before : Text) (position : Nat) : List Text → List Piece
  | [] => [.plain before]
  | part :: parts =>
    let next := position + 1 + part.length
    match tagOf? part with
    | none => piecesFrom (before ++ '[' :: part) next parts
    | some (tag, rest) =>
      let (body, n) := cutBackslashes before
      let piece := if n % 2 = 0 then .tag tag position else .plain (bracketed tag)
      .plain body :: .plain (backslashes (n / 2)) :: piece :: piecesFrom rest next parts

def pieces (markup : Text) : List Piece :=
  match splitOn '[' markup with
  | [] => []
  | first :: parts => piecesFrom first first.length parts

def escapeFrom (before : Text) : List Text → Text
  | [] => before
  | part :: parts =>
    match tagOf? part with
    | none => escapeFrom (before ++ '[' :: part) parts
    | some (tag, rest) =>
      let (body, n) := cutBackslashes before
      body ++ backslashes (2 * n + 1) ++ bracketed tag ++ escapeFrom rest parts

def closeBackslash (t : Text) : Text :=
  if (cutBackslashes t).2 = 1 then t ++ ['\\'] else t

/-- The markup of a text that is to be shown as it is. -/
def escape (t : Text) : Text :=
  match splitOn '[' t with
  | [] => []
  | first :: parts => closeBackslash (escapeFrom first parts)

def dropEscapes : Text → Text
  | [] => []
  | '\\' :: '[' :: r => '[' :: dropEscapes r
  | c :: r => c :: dropEscapes r

def isMovement (c : Char) : Bool :=
  c.toNat = 7 || c.toNat = 8 || c.toNat = 11 || c.toNat = 12 || c.toNat = 13

def Piece.shown : Piece → Text
  | plain t => (withPictures (dropEscapes t)).filter fun c => !isMovement c
  | tag .. => []

def text (markup : Text) : Text :=
  (pieces markup).flatMap Piece.shown

structure Fault where
  tag : Text
  position : Nat
deriving DecidableEq, Repr

def Fault.message (f : Fault) : Text :=
  if trim (f.tag.takeWhile (· ≠ '=')).tail = [] then
    "closing tag '[/]' at position " ++ ofNat f.position ++ " has nothing to close"
  else
    "closing tag '" ++ bracketed f.tag ++ "' at position " ++ ofNat f.position ++
      " doesn't match any open tag"

def styleAliases : List (Text × Text) := [
  ("b", "bold"), ("c", "conceal"), ("d", "dim"), ("i", "italic"), ("o", "overline"), ("r", "reverse"),
  ("s", "strike"), ("u", "underline"), ("uu", "underline2")]

def styleName (tag : Text) : Text :=
  let name := (trim (tag.takeWhile (· ≠ '='))).map Char.toLower
  (styleAliases.lookup name).getD name

def close? (name : Text) : List Text → Option (List Text)
  | [] => none
  | s :: opened => if name = [] ∨ s = name then some opened else (close? name opened).map (s :: ·)

/-- The first tag that closes what is not open. -/
def faultFrom (opened : List Text) : List Piece → Option Fault
  | [] => none
  | .plain _ :: rest => faultFrom opened rest
  | .tag tag position :: rest =>
    match tag with
    | '/' :: name =>
      match close? (styleName name) opened with
      | some opened => faultFrom opened rest
      | none => some ⟨tag, position⟩
    | _ => faultFrom (styleName tag :: opened) rest

def fault? (markup : Text) : Option Fault :=
  faultFrom [] (pieces markup)

end BattleScript.Command.Markup
