import BattleScript.Json.Reader
import BattleScript.Toml.Value

/-!
Scalars of TOML: strings in their four forms, numbers, dates and times. A reader gives the value and
the rest of the text.
-/
namespace BattleScript.Toml
open Text

/-- Why a document is refused. A whole number of too many digits is a fault of its own. -/
inductive Fault where
  | malformed
  | tooManyDigits (digits : Nat)
deriving DecidableEq, Repr

abbrev Read (α : Type) := Except Fault (α × Text)

def orMalformed : Option α → Except Fault α
  | some a => .ok a
  | none => .error .malformed

def isInlineSpace (c : Char) : Bool :=
  c = ' ' || c = '\t'

def isSpace (c : Char) : Bool :=
  isInlineSpace c || c = '\n'

def isIllegal (c : Char) : Bool :=
  c ≠ '\t' && (c.toNat < 0x20 || c.toNat = 0x7F)

def skipInline (t : Text) : Text :=
  t.dropWhile isInlineSpace

def escape? : Char → Option Char
  | 'b' => some '\x08'
  | 't' => some '\t'
  | 'n' => some '\n'
  | 'f' => some '\x0C'
  | 'r' => some '\r'
  | '"' => some '"'
  | '\\' => some '\\'
  | _ => none

def scalar? (digits : Text) : Option Char :=
  match hexValue? digits with
  | some n => if n < 0xD800 ∨ (0xE000 ≤ n ∧ n < 0x110000) then some (Char.ofNat n) else none
  | none => none

/-- What a basic string is in the middle of: text, the blanks after a backslash up to the line end, or
the gap that such a line end opens. -/
inductive Within where
  | text
  | lineEnd
  | gap
deriving DecidableEq, Repr

def basicChars (multiline : Bool) : Within → Text → Option (Text × Text)
  | _, [] => none
  | within, c :: r =>
    if within = .lineEnd then
      if isInlineSpace c then basicChars multiline .lineEnd r
      else if c = '\n' then basicChars multiline .gap r
      else none
    else if within = .gap ∧ isSpace c then basicChars multiline .gap r
    else if c = '"' then
      match multiline, r with
      | false, r => some ([], r)
      | true, '"' :: '"' :: r => some ([], r)
      | true, r => (basicChars multiline .text r).map fun (t, rest) => ('"' :: t, rest)
    else if c = '\\' then
      match r with
      | 'u' :: a :: b :: c :: d :: r =>
        match scalar? [a, b, c, d] with
        | some x => (basicChars multiline .text r).map fun (t, rest) => (x :: t, rest)
        | none => none
      | 'U' :: a :: b :: c :: d :: e :: f :: g :: h :: r =>
        match scalar? [a, b, c, d, e, f, g, h] with
        | some x => (basicChars multiline .text r).map fun (t, rest) => (x :: t, rest)
        | none => none
      | e :: r =>
        if multiline ∧ isInlineSpace e then basicChars multiline .lineEnd r
        else if multiline ∧ e = '\n' then basicChars multiline .gap r
        else match escape? e with
          | some x => (basicChars multiline .text r).map fun (t, rest) => (x :: t, rest)
          | none => none
      | [] => none
    else if isIllegal c ∧ ¬ (multiline ∧ c = '\n') then none
    else (basicChars multiline .text r).map fun (t, rest) => (c :: t, rest)

def literalChars (t : Text) : Option (Text × Text) :=
  match cutAt ['\''] t with
  | some (inside, rest) => if inside.any isIllegal then none else some (inside, rest)
  | none => none

def dropFirstBreak : Text → Text
  | '\n' :: r => r
  | t => t

def extraQuotes (quote : Char) (t : Text) : Text × Text :=
  match t with
  | a :: b :: r =>
    if a = quote then (if b = quote then ([quote, quote], r) else ([quote], b :: r)) else ([], t)
  | [a] => if a = quote then ([quote], []) else ([], t)
  | [] => ([], [])

def multilineChars (quote : Char) (t : Text) : Option (Text × Text) :=
  let body := dropFirstBreak t
  let read :=
    if quote = '"' then basicChars true .text body
    else match cutAt ['\'', '\'', '\''] body with
      | some (inside, rest) =>
        if inside.any fun c => isIllegal c && c ≠ '\n' then none else some (inside, rest)
      | none => none
  read.map fun (inside, rest) =>
    let (more, rest) := extraQuotes quote rest
    (inside ++ more, rest)

def lineChars (quote : Char) (t : Text) : Option (Text × Text) :=
  if quote = '"' then basicChars false .text t else literalChars t

def stringChars (quote : Char) (t : Text) : Option (Text × Text) :=
  match t with
  | a :: b :: r => if a = quote ∧ b = quote then multilineChars quote r else lineChars quote t
  | _ => lineChars quote t

def moreDigits (isDigit : Char → Bool) : Text → Text × Text
  | [] => ([], [])
  | '_' :: c :: r =>
    if isDigit c then
      let (ds, rest) := moreDigits isDigit r
      (c :: ds, rest)
    else ([], '_' :: c :: r)
  | c :: r =>
    if isDigit c then
      let (ds, rest) := moreDigits isDigit r
      (c :: ds, rest)
    else ([], c :: r)

def digits? (isDigit : Char → Bool) : Text → Option (Text × Text)
  | c :: r =>
    if isDigit c then
      let (ds, rest) := moreDigits isDigit r
      some (c :: ds, rest)
    else none
  | [] => none

def isDecimal := Json.isDecimal

def isHexadecimal (c : Char) : Bool := (hexDigit? c).isSome

def isOctal (c : Char) : Bool := '0' ≤ c && c ≤ '7'

def isBinary (c : Char) : Bool := c = '0' || c = '1'

def radixNumber? (t : Text) : Option Text :=
  match t with
  | '0' :: 'x' :: r => (digits? isHexadecimal r).map Prod.snd
  | '0' :: 'o' :: r => (digits? isOctal r).map Prod.snd
  | '0' :: 'b' :: r => (digits? isBinary r).map Prod.snd
  | _ => none

def skipSign : Text → Text
  | '+' :: r => r
  | '-' :: r => r
  | t => t

def fraction? : Text → Option Text
  | '.' :: r => (digits? isDecimal r).map Prod.snd
  | _ => none

def exponent? : Text → Option Text
  | c :: r => if c = 'e' ∨ c = 'E' then (digits? isDecimal (skipSign r)).map Prod.snd else none
  | [] => none

def wholePart? (t : Text) : Option (Text × Text) :=
  match t with
  | '0' :: r => some (['0'], r)
  | t => digits? isDecimal t

def decimalNumber? (t : Text) : Option (Except Fault Value × Text) :=
  match wholePart? (skipSign t) with
  | none => none
  | some (whole, rest) =>
    let afterFraction := (fraction? rest).getD rest
    let afterExponent := (exponent? afterFraction).getD afterFraction
    if (fraction? rest).isNone ∧ (exponent? afterFraction).isNone then
      if whole.length > Json.digitLimit then some (.error (.tooManyDigits whole.length), rest)
      else some (.ok .integer, rest)
    else some (.ok .float, afterExponent)

def number? (t : Text) : Option (Except Fault Value × Text) :=
  match radixNumber? t with
  | some rest => some (.ok .integer, rest)
  | none => decimalNumber? t

def twoDigits? (low high : Nat) : Text → Option (Nat × Text)
  | a :: b :: r =>
    if isDecimal a ∧ isDecimal b then
      let n := Json.decimalValue [a, b]
      if low ≤ n ∧ n ≤ high then some (n, r) else none
    else none
  | _ => none

def thenTwo? (c : Char) (low high : Nat) : Text → Option (Nat × Text)
  | a :: r => if a = c then twoDigits? low high r else none
  | [] => none

def time? (t : Text) : Option Text := do
  let (_, t) ← twoDigits? 0 23 t
  let (_, t) ← thenTwo? ':' 0 59 t
  let (_, t) ← thenTwo? ':' 0 59 t
  match t with
  | '.' :: r =>
    match r.span isDecimal with
    | ([], _) => some t
    | (_, rest) => some rest
  | _ => some t

def offset? (t : Text) : Option Text :=
  match t with
  | 'Z' :: r => some r
  | 'z' :: r => some r
  | c :: r =>
    if c = '+' ∨ c = '-' then do
      let (_, t) ← twoDigits? 0 23 r
      let (_, t) ← thenTwo? ':' 0 59 t
      some t
    else none
  | [] => none

def isLeapYear (y : Nat) : Bool :=
  y % 4 = 0 && (y % 100 ≠ 0 || y % 400 = 0)

def daysInMonth (y m : Nat) : Nat :=
  if m = 2 then (if isLeapYear y then 29 else 28)
  else if m = 4 ∨ m = 6 ∨ m = 9 ∨ m = 11 then 30
  else 31

def date? (t : Text) : Option (Bool × Text) :=
  match t with
  | a :: b :: c :: d :: r =>
    if [a, b, c, d].all isDecimal then do
      let year := Json.decimalValue [a, b, c, d]
      let (month, r) ← thenTwo? '-' 1 12 r
      let (day, r) ← thenTwo? '-' 1 31 r
      some (1 ≤ year && day ≤ daysInMonth year month, r)
    else none
  | _ => none

def timeAfterDate? : Text → Option Text
  | c :: r =>
    if c = 'T' ∨ c = 't' ∨ c = ' ' then (time? r).map fun rest => (offset? rest).getD rest else none
  | [] => none

/-- A date with or without a time. A date that does not exist is refused. -/
def dateTime? (t : Text) : Option (Except Fault Value × Text) :=
  match date? t with
  | none => none
  | some (isReal, rest) =>
    let (value, rest) := match timeAfterDate? rest with
      | some rest => (Value.dateTime, rest)
      | none => (Value.date, rest)
    some (if isReal then .ok value else .error .malformed, rest)

def floatWords : List Text :=
  ["inf", "nan", "-inf", "+inf", "-nan", "+nan"]

def scalar (t : Text) : Read Value :=
  match after? "true" t, after? "false" t with
  | some rest, _ => .ok (.boolean, rest)
  | _, some rest => .ok (.boolean, rest)
  | none, none =>
    match dateTime? t with
    | some (value, rest) => value.map fun v => (v, rest)
    | none =>
      match time? t with
      | some rest => .ok (.time, rest)
      | none =>
        match number? t with
        | some (value, rest) => value.map fun v => (v, rest)
        | none => orMalformed (floatWords.findSome? fun w => (after? w t).map fun rest => (.float, rest))

end BattleScript.Toml
