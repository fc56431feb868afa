import BattleScript.Json.Value
import BattleScript.Decimal.Layout
import BattleScript.Text.Symbol

/-!
The text of a JSON value where a name is wanted. A string is its own text; inside arrays and objects
strings stand in quotes, where a half of a surrogate pair is written by its number.
-/
namespace BattleScript.Json
open Text

mutual

def inner : Json Symbols → Text
  | .null => "None"
  | .bool true => "True"
  | .bool false => "False"
  | .int n => ofInt n
  | .float x => x.text
  | .string t => t.quoted
  | .array items => '[' :: join ", " (innerItems items) ++ [']']
  | .object fields => '\x7b' :: join ", " (innerFields fields) ++ ['\x7d']

def innerItems : List (Json Symbols) → List Text
  | [] => []
  | v :: vs => inner v :: innerItems vs

def innerFields : List (Symbols × Json Symbols) → List Text
  | [] => []
  | (k, v) :: fields => (k.quoted ++ ": " ++ inner v) :: innerFields fields

end

def label : Json Symbols → Symbols
  | .string t => t
  | v => (inner v).symbols

end BattleScript.Json
