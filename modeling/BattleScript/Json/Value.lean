import BattleScript.Assoc
import BattleScript.Decimal.Binary64
import BattleScript.Text.Basic

/-!
JSON values. Whole numbers are kept apart from floating ones, and the fields of an object keep their
order. Strings are texts, unless the value comes from outside and they may be more.
-/
namespace BattleScript

inductive Json (σ : Type := Text) where
  | null
  | bool (b : Bool)
  | int (n : Int)
  | float (x : Decimal.Binary64)
  | string (t : σ)
  | array (items : List (Json σ))
  | object (fields : List (σ × Json σ))
deriving Inhabited, Repr

namespace Json

def field? [DecidableEq σ] (key : σ) : Json σ → Option (Json σ)
  | .object fields => Assoc.get? key fields
  | _ => none

end Json
end BattleScript
