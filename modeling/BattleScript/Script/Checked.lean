import BattleScript.Json.Value
import BattleScript.Text.Blank
import BattleScript.Text.Digit

/-!
Reading fields out of JSON values. Every issue is kept, in the order of the fields, with the place it
stands at. Whole numbers and truth values are also read from texts and numbers that spell them.
-/
namespace BattleScript.Script
open Text

inductive IssueKind where
  | notList
  | notTagged
  | notObject
  | noTag
  | unknownTag
  | missing
  | notText
  | notNumber
  | notNumeral
  | tooLong
  | fractional
  | notFinite
  | negative
  | unknownWord
  | notTruthValue
  | notTruthWord
deriving DecidableEq, Repr

def IssueKind.word : IssueKind → Text
  | notList => "list_type"
  | notTagged => "model_attributes_type"
  | notObject => "model_type"
  | noTag => "union_tag_not_found"
  | unknownTag => "union_tag_invalid"
  | missing => "missing"
  | notText => "string_type"
  | notNumber => "int_type"
  | notNumeral => "int_parsing"
  | tooLong => "int_parsing_size"
  | fractional => "int_from_float"
  | notFinite => "finite_number"
  | negative => "greater_than_equal"
  | unknownWord => "enum"
  | notTruthValue => "bool_type"
  | notTruthWord => "bool_parsing"

abbrev Trail := List Text

structure Issue where
  trail : Trail
  kind : IssueKind
deriving DecidableEq, Repr

inductive Checked (α : Type) where
  | valid (a : α)
  | invalid (issues : List Issue)
deriving Repr

namespace Checked

def map (f : α → β) : Checked α → Checked β
  | valid a => valid (f a)
  | invalid issues => invalid issues

/-- Two invalid sides give the issues of both, the left ones first. -/
def seq : Checked (α → β) → (Unit → Checked α) → Checked β
  | valid f, a => map f (a ())
  | invalid issues, a =>
    match a () with
    | valid _ => invalid issues
    | invalid more => invalid (issues ++ more)

instance : Applicative Checked where
  pure := valid
  map := map
  seq := seq

def issue (trail : Trail) (kind : IssueKind) : Checked α :=
  invalid [⟨trail, kind⟩]

abbrev Reader (α : Type) := Trail → Json → Checked α

def required (trail : Trail) (fields : List (Text × Json)) (key : Text) (read : Reader α) : Checked α :=
  match Assoc.get? key fields with
  | none => issue (trail ++ [key]) .missing
  | some v => read (trail ++ [key]) v

def withDefault (trail : Trail) (fields : List (Text × Json)) (key : Text) (default : α)
    (read : Reader α) : Checked α :=
  match Assoc.get? key fields with
  | none => valid default
  | some v => read (trail ++ [key]) v

def nullable (read : Reader α) : Reader (Option α)
  | _, .null => valid none
  | trail, v => map some (read trail v)

def text : Reader Text
  | _, .string t => valid t
  | trail, _ => issue trail .notText

def isMargin (c : Char) : Bool :=
  isBlank c && !(0x1C ≤ c.toNat && c.toNat ≤ 0x1F)

def trimMargin (t : Text) : Text :=
  ((t.dropWhile isMargin).reverse.dropWhile isMargin).reverse

def numeralLimit : Nat := 4300

/-- The value of a numeral without needless signs and zeros: `0`, or digits that start with another
one, and before them at most a minus sign. -/
def plainNumeral? (t : Text) : Option Int :=
  let (negative, digits) : Bool × Text := match t with
    | '-' :: r => (true, r)
    | t => (false, t)
  let value : Nat := digits.foldl (fun n c => 10 * n + (c.toNat - '0'.toNat)) 0
  if digits = [] ∨ !digits.all isAsciiDigit ∨ (digits.head? = some '0' ∧ digits ≠ ['0']) ∨
      t.length > numeralLimit then none
  else some (if negative then -(value : Int) else value)

def passesLimit (t : Text) : Bool :=
  let (sign, digits) : Nat × Text := match t with
    | '-' :: r => (1, r)
    | t => (0, t)
  digits.head? ≠ some '0' && sign + (digits.takeWhile isAsciiDigit).length > numeralLimit

/-- The rest of a numeral after zeros, where `zero` is the character last read and low lines between
zeros count with them. One zero stays in front of a point and where there is nothing else. A minus sign
may follow the zeros. -/
def afterZeros (zero : Char) : Text → Option Text
  | [] => some [zero]
  | c :: r =>
    if c = '0' ∨ c = '_' then afterZeros c r
    else if isAsciiDigit c ∨ c = '-' then some (c :: r)
    else if c = '.' then some (zero :: c :: r)
    else none

def stripZeros : Text → Option Text
  | [] => none
  | c :: r => if c = '0' then afterZeros '0' r else if isAsciiDigit c then some (c :: r) else none

def stripFraction (t : Text) : Text :=
  match cutAt ['.'] t with
  | some (whole, c :: r) => if (c :: r).all (· = '0') then whole else t
  | _ => t

def stripLowLines (t : Text) : Text :=
  if t.head? = some '_' ∨ t.getLast? = some '_' ∨ (cutAt ['_', '_'] t).isSome then t
  else t.filter (· ≠ '_')

def cleanNumeral (t : Text) : Option Text :=
  let clean (t : Text) : Option Text := (stripZeros t).map fun t => stripLowLines (stripFraction t)
  match trimMargin t with
  | '-' :: r => (clean r).map ('-' :: ·)
  | '+' :: '-' :: _ => none
  | '+' :: r => clean r
  | t => clean t

def intOfText (trail : Trail) (t : Text) : Checked Int :=
  match plainNumeral? t with
  | some n => valid n
  | none =>
    if passesLimit t then issue trail .tooLong
    else match (cleanNumeral t).bind plainNumeral? with
      | some n => valid n
      | none => issue trail .notNumeral

def wholeOf? (m : Nat) (q : Int) : Option Nat :=
  match q with
  | .ofNat k => some (m * Nat.pow 2 k)
  | .negSucc k => if m % Nat.pow 2 (k + 1) = 0 then some (m / Nat.pow 2 (k + 1)) else none

def wordLimit : Nat := Nat.pow 2 63

def int : Reader Int
  | _, .int n => valid n
  | _, .bool b => valid (if b then 1 else 0)
  | trail, .float (.number negative (.finite m q)) =>
    match wholeOf? m q with
    | some n =>
      if n < wordLimit then valid (if negative then -(n : Int) else n) else issue trail .tooLong
    | none => issue trail .fractional
  | trail, .float _ => issue trail .notFinite
  | trail, .string t => intOfText trail t
  | trail, _ => issue trail .notNumber

def natural : Reader Nat := fun trail v =>
  match int trail v with
  | valid n => if 0 ≤ n then valid n.toNat else issue trail .negative
  | invalid issues => invalid issues

def trueWords : List Text := ["1", "on", "t", "true", "y", "yes"]

def falseWords : List Text := ["0", "off", "f", "false", "n", "no"]

def boolOfInt (trail : Trail) (n : Int) : Checked Bool :=
  if n = 1 then valid true
  else if n = 0 then valid false
  else if -(wordLimit : Int) ≤ n ∧ n < wordLimit then issue trail .notTruthWord
  else issue trail .notTruthValue

def bool : Reader Bool
  | _, .bool b => valid b
  | trail, .int n => boolOfInt trail n
  | trail, .float x =>
    match int trail (.float x) with
    | valid n => boolOfInt trail n
    | invalid _ => issue trail .notTruthValue
  | trail, .string t =>
    let t := t.map Char.toLower
    if t ∈ trueWords then valid true
    else if t ∈ falseWords then valid false
    else issue trail .notTruthWord
  | trail, _ => issue trail .notTruthValue

def word (ofWord? : Text → Option α) : Reader α
  | trail, .string t =>
    match ofWord? t with
    | some a => valid a
    | none => issue trail .unknownWord
  | trail, _ => issue trail .unknownWord

def items (read : Reader α) (trail : Trail) (index : Nat) : List Json → Checked (List α)
  | [] => valid []
  | v :: vs => List.cons <$> read (trail ++ [ofNat index]) v <*> items read trail (index + 1) vs

def list (read : Reader α) : Reader (List α)
  | trail, .array vs => items read trail 0 vs
  | trail, _ => issue trail .notList

end Checked
end BattleScript.Script
