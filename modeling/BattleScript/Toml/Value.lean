import BattleScript.Assoc
import BattleScript.Text.Basic

/-!
TOML values. Strings are kept; of the other scalars only the kind matters here.
-/
namespace BattleScript.Toml

inductive Value where
  | string (t : Text)
  | integer
  | float
  | boolean
  | date
  | time
  | dateTime
  | array (items : List Value)
  | table (fields : List (Text × Value))
deriving Inhabited, Repr

abbrev Fields := List (Text × Value)

def Value.kindWord : Value → Text
  | string _ => "str"
  | integer => "int"
  | float => "float"
  | boolean => "bool"
  | date => "date"
  | time => "time"
  | dateTime => "datetime"
  | array _ => "list"
  | table _ => "dict"

end BattleScript.Toml
