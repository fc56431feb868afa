import BattleScript.Text.Basic
import BattleScript.Decimal.Shortest

/-!
How a floating number is written: positionally from `1e-4` up to below `1e16`, else with an exponent
of at least two digits.
-/
namespace BattleScript.Decimal
open Text

def positional (ds : Text) (position : Int) : Text :=
  match position with
  | .ofNat 0 => "0." ++ ds
  | .ofNat p =>
    if ds.length ≤ p then ds ++ List.replicate (p - ds.length) '0' ++ ".0"
    else ds.take p ++ '.' :: ds.drop p
  | .negSucc k => "0." ++ List.replicate (k + 1) '0' ++ ds

def scientific (ds : Text) (e : Int) : Text :=
  let mantissa := match ds with
    | c :: r => if r = [] then [c] else c :: '.' :: r
    | [] => []
  let sign := if e < 0 then '-' else '+'
  let digits := ofNat e.natAbs
  mantissa ++ 'e' :: sign :: List.replicate (2 - digits.length) '0' ++ digits

def Digits.text (d : Digits) : Text :=
  let ds := ofNat d.digits
  let position := ds.length + d.exponent
  if -4 ≤ position - 1 ∧ position - 1 < 16 then positional ds position
  else scientific ds (position - 1)

def Magnitude.text : Magnitude → Text
  | .finite m q => if m = 0 then "0.0" else (shortest m q).text
  | .infinite => "inf"

def Binary64.text : Binary64 → Text
  | .number negative magnitude => (if negative then ['-'] else []) ++ magnitude.text
  | .nan => "nan"

end BattleScript.Decimal
