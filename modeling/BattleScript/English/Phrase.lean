import BattleScript.Script.Condition
import BattleScript.Text.Digit
import BattleScript.Text.Upper
import BattleScript.Text.Word

/-!
The phrases that comparisons are told in, and the short badge of a round.
-/
namespace BattleScript.English
open Text Script

def operatorWords : Operator → Text
  | .equals => "is"
  | .notEquals => "is not"
  | .greaterThan => "is greater than"
  | .greaterEqual => "is greater than or equal to"
  | .lessThan => "is less than"
  | .lessEqual => "is less than or equal to"
  | .contains => "contains"
  | .notContains => "does not contain"

def propertyName (property : Text) : Text :=
  if property = Text.of "hp" then "health"
  else if property = Text.of "hpp" then "health %"
  else property

def booleanVerbs : List (Text × Text × Text) := [
  ("active", "is active", "is NOT active"),
  ("dead", "is dead", "is alive"),
  ("exists", "exists", "does NOT exist"),
  ("played", "has been played", "has NOT been played"),
  ("usable", "is usable", "is NOT usable"),
  ("strong", "is strong", "is NOT strong"),
  ("weak", "is weak", "is NOT weak"),
  ("collected", "is collected", "is NOT collected"),
  ("fast", "is faster than the enemy active pet", "is NOT faster than the enemy active pet"),
  ("slow", "is slower than the enemy active pet", "is NOT slower than the enemy active pet")]

def booleanVerb (property : Text) (holds : Bool) : Text :=
  match booleanVerbs.lookup property with
  | some (yes, no) => if holds then yes else no
  | none => (if holds then "is " else "is NOT ") ++ property

def booleanProperties : List Text := ["active", "dead", "exists", "played", "usable"]

def isBooleanProperty (property : Text) : Bool :=
  booleanProperties.any fun p => p = property

def leadingNumber (value : Text) : Text :=
  let (sign, body) : Text × Text := match trimLeft value with
    | '-' :: r => (['-'], r)
    | t => ([], t)
  match body.takeWhile isDigit with
  | [] => value
  | digits => sign ++ digits

def healthPercentPhrase (operator : Operator) (value : Text) : Text :=
  let n := leadingNumber value
  match operator with
  | .lessThan => "is below " ++ n ++ "%"
  | .lessEqual => "is at or below " ++ n ++ "%"
  | .greaterThan => "is above " ++ n ++ "%"
  | .greaterEqual => "is at or above " ++ n ++ "%"
  | .equals => "is exactly " ++ n ++ "%"
  | .notEquals => "is NOT " ++ n ++ "%"
  | op => op.symbol ++ ' ' :: value ++ "%"

def healthPointsPhrase (operator : Operator) (value : Text) : Text :=
  let n := leadingNumber value
  match operator with
  | .lessThan => "is less than " ++ n
  | .lessEqual => "is at most " ++ n
  | .greaterThan => "is greater than " ++ n
  | .greaterEqual => "is at least " ++ n
  | .equals => "is exactly " ++ n
  | .notEquals => "is NOT " ++ n
  | op => op.symbol ++ ' ' :: value

def auraDurationPhrase (operator : Operator) (value : Text) : Text :=
  let n := leadingNumber value
  let rounds : Text := if n = ['1'] then "round" else "rounds"
  match operator with
  | .lessThan => "has less than " ++ n ++ ' ' :: rounds ++ " remaining"
  | .lessEqual => "has " ++ n ++ ' ' :: rounds ++ " or less remaining"
  | .greaterThan => "has more than " ++ n ++ ' ' :: rounds ++ " remaining"
  | .greaterEqual => "has " ++ n ++ ' ' :: rounds ++ " or more remaining"
  | .equals => "has exactly " ++ n ++ ' ' :: rounds ++ " remaining"
  | .notEquals => "does NOT have " ++ n ++ ' ' :: rounds ++ " remaining"
  | op => "duration " ++ op.symbol ++ ' ' :: value

def roundOperators : List Operator :=
  [.equals, .notEquals, .greaterEqual, .lessEqual, .greaterThan, .lessThan]

def badgeHere (t : Text) : Option Text :=
  match after? "round" t with
  | none => none
  | some rest =>
    roundOperators.findSome? fun op =>
      match after? op.symbol (trimLeft rest) with
      | none => none
      | some r =>
        match (trimLeft r).takeWhile isDigit with
        | [] => none
        | digits => some ('R' :: (if op = .equals then [] else op.symbol) ++ digits)

/-- Searches for a round comparison; `inWord` tells whether a word character stands before. -/
def badgeFrom (inWord : Bool) : Text → Option Text
  | [] => none
  | c :: r =>
    match (if inWord then none else badgeHere (c :: r)) with
    | some badge => some badge
    | none => badgeFrom (isWord c) r

def roundBadge (condition : Text) : Option Text :=
  badgeFrom false condition

end BattleScript.English
