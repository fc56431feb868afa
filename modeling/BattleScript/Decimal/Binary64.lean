/-!
Floating numbers of 64 bits in exact arithmetic. A finite magnitude is `m * 2 ^ q` with `m` below
`2 ^ 53`, normalised so that `m` is at least `2 ^ 52` unless `q` is the least exponent.
-/
namespace BattleScript.Decimal

inductive Magnitude where
  | finite (m : Nat) (q : Int)
  | infinite
deriving DecidableEq, Repr

inductive Binary64 where
  | number (negative : Bool) (magnitude : Magnitude)
  | nan
deriving DecidableEq, Repr

def leastExponent : Int := -1074

def leastNormal : Nat := Nat.pow 2 52

def tooWide : Nat := Nat.pow 2 53

def roundDiv (n d : Nat) : Nat :=
  let k := n / d
  let twice := 2 * (n % d)
  if twice < d then k
  else if d < twice then k + 1
  else k + k % 2

def scaled (n d : Nat) (q : Int) : Nat × Nat :=
  match q with
  | .ofNat k => (n, d * Nat.pow 2 k)
  | .negSucc k => (n * Nat.pow 2 (k + 1), d)

/-- The exponent for which `n / d` has 53 binary digits, but not below the least one. -/
def exponentOf (n d : Nat) : Int :=
  let e : Int := (Nat.log2 n : Int) - Nat.log2 d - 53
  let (a, b) := scaled n d e
  max (if a / b < tooWide then e else e + 1) leastExponent

def Magnitude.nearest (n d : Nat) : Magnitude :=
  if n = 0 then .finite 0 leastExponent
  else
    let q := exponentOf n d
    let (a, b) := scaled n d q
    let m := roundDiv a b
    let (m, q) := if m = tooWide then (leastNormal, q + 1) else (m, q)
    if q > 971 then .infinite else .finite m q

/-- The magnitude nearest to `digits * 10 ^ e`. Powers of ten far outside the range are not built. -/
def Magnitude.ofDecimal (digits : Nat) (e : Int) : Magnitude :=
  let places : Int := (Nat.toDigits 10 digits).length
  if digits = 0 ∨ places + e < -330 then .finite 0 leastExponent
  else if places + e > 320 then .infinite
  else match e with
    | .ofNat k => .nearest (digits * Nat.pow 10 k) 1
    | .negSucc k => .nearest digits (Nat.pow 10 (k + 1))

end BattleScript.Decimal
