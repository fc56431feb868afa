import BattleScript.Json.Value
import BattleScript.Text.Symbol

/-!
Reading JSON, with `NaN` and the infinities as numbers. A fault is known by how many symbols are left at
it, and its place in the document follows from that. A whole number of too many digits is refused by
itself. Arrays and objects may be nested to any depth; the memory for that is taken to be there.
-/
namespace BattleScript.Json
open Text

def digitLimit : Nat := 4300

inductive Expectation where
  | value
  | propertyName
  | colon
  | comma
  | stringEnd
  | noControl
  | escape
  | unicodeEscape
  | documentEnd
  | noMark
deriving DecidableEq, Repr

def Expectation.message : Expectation → Text
  | .value => "Expecting value"
  | .propertyName => "Expecting property name enclosed in double quotes"
  | .colon => "Expecting ':' delimiter"
  | .comma => "Expecting ',' delimiter"
  | .stringEnd => "Unterminated string starting at"
  | .noControl => "Invalid control character at"
  | .escape => "Invalid \\escape"
  | .unicodeEscape => "Invalid \\uXXXX escape"
  | .documentEnd => "Extra data"
  | .noMark => "Unexpected UTF-8 BOM (decode using utf-8-sig)"

/-- Why a document cannot be read: what was expected where `left` symbols remain, or a whole number of
`digits` digits. -/
inductive Fault where
  | expected (what : Expectation) (left : Nat)
  | tooManyDigits (digits : Nat)
deriving DecidableEq, Repr

abbrev Read (α : Type) := Except Fault (α × Symbols)

def isSpace : Symbol → Bool
  | .char c => c = ' ' || c = '\t' || c = '\n' || c = '\r'
  | .half _ => false

def skipSpace (t : Symbols) : Symbols :=
  t.dropWhile isSpace

def isHighSurrogate (n : Nat) : Bool := 0xD800 ≤ n && n < 0xDC00

def isLowSurrogate (n : Nat) : Bool := 0xDC00 ≤ n && n < 0xE000

def joinSurrogates (high low : Nat) : Char :=
  Char.ofNat (0x10000 + (high - 0xD800) * 0x400 + (low - 0xDC00))

def simpleEscape? : Symbol → Option Char
  | .char '"' => some '"'
  | .char '\\' => some '\\'
  | .char '/' => some '/'
  | .char 'b' => some '\x08'
  | .char 'f' => some '\x0C'
  | .char 'n' => some '\n'
  | .char 'r' => some '\r'
  | .char 't' => some '\t'
  | _ => none

def hex4? (a b c d : Symbol) : Option Nat :=
  (Symbols.text? [a, b, c, d]).bind hexValue?

/-- The rest of a string whose opening quote has `start` symbols left at it. Two escapes that are a
surrogate pair are one character; a half that stands alone is kept as it is. -/
def readChars (start : Nat) : Symbols → Read Symbols
  | [] => .error (.expected .stringEnd start)
  | .char '"' :: r => .ok ([], r)
  | .char '\\' :: .char 'u' :: a :: b :: c :: d :: r =>
    match hex4? a b c d with
    | none => .error (.expected .unicodeEscape (r.length + 5))
    | some n =>
      if r = [] then .error (.expected .unicodeEscape (r.length + 5))
      else if isHighSurrogate n then
        match r with
        | .char '\\' :: .char 'u' :: a' :: b' :: c' :: d' :: e :: r' =>
          match hex4? a' b' c' d' with
          | none => .error (.expected .unicodeEscape (r'.length + 6))
          | some m =>
            if isLowSurrogate m then
              (readChars start (e :: r')).map fun (t, rest) => (.char (joinSurrogates n m) :: t, rest)
            else
              (readChars start (.char '\\' :: .char 'u' :: a' :: b' :: c' :: d' :: e :: r')).map
                fun (t, rest) => (.ofNumber n :: t, rest)
        | r => (readChars start r).map fun (t, rest) => (.ofNumber n :: t, rest)
      else (readChars start r).map fun (t, rest) => (.ofNumber n :: t, rest)
  | .char '\\' :: s :: r =>
    if s = .char 'u' then .error (.expected .unicodeEscape (r.length + 1))
    else match simpleEscape? s with
      | none => .error (.expected .escape (r.length + 2))
      | some e => (readChars start r).map fun (t, rest) => (.char e :: t, rest)
  | s :: r =>
    if s = .char '\\' then .error (.expected .stringEnd start)
    else if s.number < 0x20 then .error (.expected .noControl (r.length + 1))
    else (readChars start r).map fun (t, rest) => (s :: t, rest)

structure Numeral where
  negative : Bool
  whole : Text
  fraction : Text
  exponent : Option (Bool × Text)
deriving DecidableEq, Repr

def isDecimal (c : Char) : Bool :=
  '0' ≤ c && c ≤ '9'

def decimalValue (digits : Text) : Nat :=
  digits.foldl (fun n c => 10 * n + (c.toNat - '0'.toNat)) 0

def readWhole : Text → Option (Text × Text)
  | '0' :: r => some (['0'], r)
  | t =>
    match t.span isDecimal with
    | ([], _) => none
    | parts => some parts

def readFraction : Text → Text × Text
  | '.' :: r =>
    match r.span isDecimal with
    | ([], _) => ([], '.' :: r)
    | parts => parts
  | t => ([], t)

def readSign : Text → Bool × Text
  | '-' :: r => (true, r)
  | '+' :: r => (false, r)
  | t => (false, t)

def readExponent (t : Text) : Option (Bool × Text) × Text :=
  match t with
  | c :: r =>
    if c = 'e' ∨ c = 'E' then
      let (negative, r) := readSign r
      match r.span isDecimal with
      | ([], _) => (none, t)
      | (digits, rest) => (some (negative, digits), rest)
    else (none, t)
  | [] => (none, [])

def readNumeral? (t : Text) : Option (Numeral × Text) :=
  let (negative, body) := match t with
    | '-' :: r => (true, r)
    | _ => (false, t)
  match readWhole body with
  | none => none
  | some (whole, rest) =>
    let (fraction, rest) := readFraction rest
    let (exponent, rest) := readExponent rest
    some (⟨negative, whole, fraction, exponent⟩, rest)

def Numeral.value (n : Numeral) : Except Fault (Json Symbols) :=
  match n.fraction, n.exponent with
  | [], none =>
    if n.whole.length > digitLimit then .error (.tooManyDigits n.whole.length)
    else .ok (.int (if n.negative then -(decimalValue n.whole : Int) else decimalValue n.whole))
  | fraction, exponent =>
    let e : Int := match exponent with
      | none => 0
      | some (true, ds) => -(decimalValue ds : Int)
      | some (false, ds) => decimalValue ds
    .ok (.float (.number n.negative
      (.ofDecimal (decimalValue (n.whole ++ fraction)) (e - fraction.length))))

def words : List (Text × Json Symbols) := [
  ("null", .null), ("true", .bool true), ("false", .bool false), ("NaN", .float .nan),
  ("Infinity", .float (.number false .infinite)), ("-Infinity", .float (.number true .infinite))]

def readWord? (t : Text) : Option (Json Symbols × Text) :=
  words.findSome? fun (word, value) => (after? word t).map fun rest => (value, rest)

def isScalarChar (c : Char) : Bool :=
  c.isAlphanum || c = '-' || c = '+' || c = '.'

def readScalar (t : Symbols) : Read (Json Symbols) :=
  let (front, behind) := t.run isScalarChar
  match readWord? front with
  | some (v, rest) => .ok (v, rest.symbols ++ behind)
  | none =>
    match readNumeral? front with
    | some (n, rest) => n.value.map fun v => (v, rest.symbols ++ behind)
    | none => .error (.expected .value t.length)

mutual

/-- One value. Each call spends one unit of fuel, and at most two calls are made per symbol. -/
def readValue : Nat → Symbols → Read (Json Symbols)
  | 0, t => .error (.expected .value t.length)
  | fuel + 1, t =>
    match t with
    | .char '"' :: r => (readChars (r.length + 1) r).map fun (s, rest) => (.string s, rest)
    | .char '[' :: r =>
      match skipSpace r with
      | .char ']' :: rest => .ok (.array [], rest)
      | r => (readItems fuel r).map fun (items, rest) => (.array items, rest)
    | .char '\x7b' :: r =>
      match skipSpace r with
      | .char '\x7d' :: rest => .ok (.object [], rest)
      | r => (readFields fuel [] r).map fun (fields, rest) => (.object fields, rest)
    | t => readScalar t

def readItems : Nat → Symbols → Read (List (Json Symbols))
  | 0, t => .error (.expected .value t.length)
  | fuel + 1, t =>
    match readValue fuel t with
    | .error e => .error e
    | .ok (v, r) =>
      match skipSpace r with
      | .char ']' :: rest => .ok ([v], rest)
      | .char ',' :: r => (readItems fuel (skipSpace r)).map fun (vs, rest) => (v :: vs, rest)
      | r => .error (.expected .comma r.length)

def readFields : Nat → List (Symbols × Json Symbols) → Symbols → Read (List (Symbols × Json Symbols))
  | 0, _, t => .error (.expected .propertyName t.length)
  | fuel + 1, seen, t =>
    match t with
    | .char '"' :: r =>
      match readChars (r.length + 1) r with
      | .error e => .error e
      | .ok (key, r) =>
        match skipSpace r with
        | .char ':' :: r =>
          match readValue fuel (skipSpace r) with
          | .error e => .error e
          | .ok (v, r) =>
            match skipSpace r with
            | .char '\x7d' :: rest => .ok (Assoc.put key v seen, rest)
            | .char ',' :: r => readFields fuel (Assoc.put key v seen) (skipSpace r)
            | r => .error (.expected .comma r.length)
        | r => .error (.expected .colon r.length)
    | t => .error (.expected .propertyName t.length)

end

def read (t : Symbols) : Except Fault (Json Symbols) :=
  if t.head? = some (.char '\uFEFF') then .error (.expected .noMark t.length)
  else match readValue (2 * t.length + 2) (skipSpace t) with
    | .error e => .error e
    | .ok (v, r) =>
      match skipSpace r with
      | [] => .ok v
      | rest => .error (.expected .documentEnd rest.length)

def lineColumn (t : Text) : Nat × Nat :=
  (t.count '\n' + 1, (t.reverse.takeWhile (· ≠ '\n')).length + 1)

def placeMessage (document : Text) (left : Nat) : Text :=
  let position := document.length - left
  let (line, column) := lineColumn (document.take position)
  "line " ++ ofNat line ++ " column " ++ ofNat column ++ " (char " ++ ofNat position ++ ")"

def digitsMessage (digits : Nat) : Text :=
  "Exceeds the limit (" ++ ofNat digitLimit ++ " digits) for integer string conversion: value has " ++
    ofNat digits ++ " digits; use sys.set_int_max_str_digits() to increase the limit"

end BattleScript.Json
