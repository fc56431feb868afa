import BattleScript.Decimal.Binary64

/-!
The fewest decimal digits that read back as the same floating number. For 1, 2, up to 17 digits the
two neighbours of the value on that decimal grid are tested; the first grid with a hit wins, of two
hits the nearer one, and a tie goes to the even digit.
-/
namespace BattleScript.Decimal

structure Digits where
  digits : Nat
  exponent : Int
deriving DecidableEq, Repr

/-- A number and the ends of the interval that rounds to it, over a common denominator. -/
structure Interval where
  low : Nat
  value : Nat
  high : Nat
  denominator : Nat
  closed : Bool
deriving DecidableEq, Repr

def intervalOf (m : Nat) (q : Int) : Interval :=
  let low := if m = leastNormal ∧ q > leastExponent then 4 * m - 1 else 4 * m - 2
  let (scale, denominator) := scaled 1 1 (2 - q)
  { low := low * scale, value := 4 * m * scale, high := (4 * m + 2) * scale, denominator,
    closed := m % 2 == 0 }

def onGrid (denominator d : Nat) (e : Int) : Nat × Nat :=
  match e with
  | .ofNat k => (d * Nat.pow 10 k * denominator, 1)
  | .negSucc k => (d * denominator, Nat.pow 10 (k + 1))

def Interval.contains (i : Interval) (d : Nat) (e : Int) : Bool :=
  let (x, s) := onGrid i.denominator d e
  if i.closed then i.low * s ≤ x && x ≤ i.high * s else i.low * s < x && x < i.high * s

def Interval.position (i : Interval) : Int :=
  if i.denominator ≤ i.value then (Nat.toDigits 10 (i.value / i.denominator)).length
  else 1 - (Nat.toDigits 10 ((i.denominator - 1) / i.value)).length

def Interval.onDigits? (i : Interval) (count : Nat) : Option Digits :=
  let e := i.position - count
  let (n, d) := match e with
    | .ofNat k => (i.value, i.denominator * Nat.pow 10 k)
    | .negSucc k => (i.value * Nat.pow 10 (k + 1), i.denominator)
  let below := n / d
  let nearer := roundDiv n d
  let other := if nearer = below then below + 1 else below
  if i.contains nearer e then some ⟨nearer, e⟩
  else if i.contains other e then some ⟨other, e⟩
  else none

def Digits.dropZeros : Nat → Digits → Digits
  | 0, d => d
  | count + 1, d =>
    if d.digits ≠ 0 ∧ d.digits % 10 = 0 then dropZeros count ⟨d.digits / 10, d.exponent + 1⟩ else d

/-- The shortest decimal that reads back as `m * 2 ^ q`, for `m` not zero. -/
def shortest (m : Nat) (q : Int) : Digits :=
  let i := intervalOf m q
  let found := (List.range 17).findSome? fun n => i.onDigits? (n + 1)
  (found.getD ⟨0, 0⟩).dropZeros 20

end BattleScript.Decimal
