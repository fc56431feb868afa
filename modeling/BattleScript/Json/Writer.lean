import BattleScript.Json.Value
import BattleScript.Decimal.Layout
import BattleScript.Text.Symbol

/-!
Writing JSON with one field or item a line, two spaces deeper at each level. Only quotes, backslashes
and control characters are escaped.
-/
namespace BattleScript.Json
open Text

def escapedChar (c : Char) : Text :=
  if c = '"' then "\\\""
  else if c = '\\' then "\\\\"
  else if c = '\x08' then "\\b"
  else if c = '\x0C' then "\\f"
  else if c = '\n' then "\\n"
  else if c = '\r' then "\\r"
  else if c = '\t' then "\\t"
  else if c.toNat < 0x20 then "\\u" ++ ofHex 4 c.toNat
  else [c]

/-- What strings are made of: characters, or symbols. -/
class Letter (α : Type) where
  ofChar : Char → α
  symbol : α → Symbol
  escaped : α → List α

instance : Letter Char where
  ofChar := id
  symbol := .char
  escaped := escapedChar

instance : Letter Symbol where
  ofChar := .char
  symbol := id
  escaped
    | .char c => (escapedChar c).symbols
    | .half h => [.half h]

section
variable {α : Type} [Letter α]

def letters (t : Text) : List α :=
  t.map Letter.ofChar

def quotedString (t : List α) : List α :=
  letters ['"'] ++ t.flatMap Letter.escaped ++ letters ['"']

def newLine (depth : Nat) : List α :=
  letters ('\n' :: List.replicate (2 * depth) ' ')

mutual

def write (depth : Nat) : Json (List α) → List α
  | .null => letters "null"
  | .bool true => letters "true"
  | .bool false => letters "false"
  | .int n => letters (ofInt n)
  | .float x => letters x.text
  | .string t => quotedString t
  | .array [] => letters "[]"
  | .array (v :: vs) =>
    letters ['['] ++ newLine (depth + 1) ++ write (depth + 1) v ++ writeItems (depth + 1) vs ++
      newLine depth ++ letters [']']
  | .object [] => letters ['\x7b', '\x7d']
  | .object ((k, v) :: fields) =>
    letters ['\x7b'] ++ newLine (depth + 1) ++ quotedString k ++ letters ": " ++ write (depth + 1) v ++
      writeFields (depth + 1) fields ++ newLine depth ++ letters ['\x7d']

def writeItems (depth : Nat) : List (Json (List α)) → List α
  | [] => []
  | v :: vs => letters [','] ++ newLine depth ++ write depth v ++ writeItems depth vs

def writeFields (depth : Nat) : List (List α × Json (List α)) → List α
  | [] => []
  | (k, v) :: fields =>
    letters [','] ++ newLine depth ++ quotedString k ++ letters ": " ++ write depth v ++
      writeFields depth fields

end

end

end BattleScript.Json
