import BattleScript.Toml.Scalar

/-!
TOML documents. Tables may be opened once, and inline tables and arrays are closed for good; marks on
keys record which are which.
-/
namespace BattleScript.Toml
open Text

abbrev Key := List Text

/-- An opened table cannot be opened again; a frozen value cannot be extended, nor anything below it. -/
inductive Mark where
  | opened
  | frozen
deriving DecidableEq, Repr

/-- A document as far as it has been read. Dotted keys mark the tables they pass as opened from the
next header on. -/
structure State where
  fields : Fields
  marks : List (Key × Mark)
  pending : List Key
  header : Key

namespace State

def start : State := ⟨[], [], [], []⟩

def isOpened (marks : List (Key × Mark)) (key : Key) : Bool :=
  marks.any fun m => m.1 = key && m.2 = .opened

def isFrozen (marks : List (Key × Mark)) (key : Key) : Bool :=
  marks.any fun m => m.2 = .frozen && m.1.isPrefixOf key

def release (marks : List (Key × Mark)) (key : Key) : List (Key × Mark) :=
  marks.filter fun m => !key.isPrefixOf m.1

def settlePending (s : State) : State :=
  { s with marks := s.pending.map (fun k => (k, Mark.opened)) ++ s.marks, pending := [] }

end State

/-- Changes the table behind a key, making the tables that are missing. With `last`, an array of tables
stands for its last table. -/
def descend (last : Bool) (change : Fields → Option Fields) : Key → Fields → Option Fields
  | [], fields => change fields
  | k :: ks, fields =>
    match Assoc.get? k fields with
    | none => (descend last change ks []).map fun t => Assoc.put k (.table t) fields
    | some (.table t) => (descend last change ks t).map fun t => Assoc.put k (.table t) fields
    | some (.array items) =>
      match last, items.getLast? with
      | true, some (.table t) =>
        (descend last change ks t).map fun t =>
          Assoc.put k (.array (items.dropLast ++ [.table t])) fields
      | _, _ => none
    | some _ => none

def addNew (k : Text) (v : Value) (fields : Fields) : Option Fields :=
  match Assoc.get? k fields with
  | none => some (Assoc.put k v fields)
  | some _ => none

def addToArray (k : Text) (fields : Fields) : Option Fields :=
  match Assoc.get? k fields with
  | none => some (Assoc.put k (.array [.table []]) fields)
  | some (.array items) => some (Assoc.put k (.array (items ++ [.table []])) fields)
  | some _ => none

def splitKey (key : Key) : Key × Text :=
  (key.dropLast, key.getLast?.getD [])

def isContainer : Value → Bool
  | .array _ => true
  | .table _ => true
  | _ => false

def passed (header key : Key) : List Key :=
  (List.range (key.length - 1)).map fun n => header ++ key.take (n + 1)

namespace State

def addPair (s : State) (key : Key) (v : Value) : Option State :=
  let (parent, stem) := splitKey key
  let through := passed s.header key
  if through.any (isOpened s.marks) || isFrozen s.marks (s.header ++ parent) then none
  else (descend true (addNew stem v) (s.header ++ parent) s.fields).map fun fields =>
    { s with
      fields
      marks := if isContainer v then (s.header ++ key, .frozen) :: s.marks else s.marks
      pending := through ++ s.pending }

def openTable (s : State) (key : Key) : Option State :=
  if isOpened s.marks key || isFrozen s.marks key then none
  else (descend true some key s.fields).map fun fields =>
    { s with fields, marks := (key, .opened) :: s.marks, header := key }

def openItem (s : State) (key : Key) : Option State :=
  if isFrozen s.marks key then none
  else
    let (parent, stem) := splitKey key
    (descend true (addToArray stem) parent s.fields).map fun fields =>
      { s with fields, marks := (key, .opened) :: release s.marks key, header := key }

end State

structure Inline where
  fields : Fields
  marks : List (Key × Mark)

def Inline.addPair (s : Inline) (key : Key) (v : Value) : Option Inline :=
  let (parent, stem) := splitKey key
  if State.isFrozen s.marks key then none
  else (descend false (addNew stem v) parent s.fields).map fun fields =>
    ⟨fields, if isContainer v then (key, .frozen) :: s.marks else s.marks⟩

def isBareKey (c : Char) : Bool :=
  c.isAlphanum || c = '-' || c = '_'

def keyPart (t : Text) : Option (Text × Text) :=
  match t with
  | '"' :: r => lineChars '"' r
  | '\'' :: r => lineChars '\'' r
  | t =>
    match t.span isBareKey with
    | ([], _) => none
    | parts => some parts

def readKey : Nat → Text → Option (Key × Text)
  | 0, _ => none
  | fuel + 1, t =>
    match keyPart t with
    | none => none
    | some (part, r) =>
      match skipInline r with
      | '.' :: r => (readKey fuel (skipInline r)).map fun (parts, rest) => (part :: parts, rest)
      | rest => some ([part], rest)

def skipGaps (inComment : Bool) : Text → Option Text
  | [] => some []
  | c :: r =>
    if inComment then
      if c = '\n' then skipGaps false r else if isIllegal c then none else skipGaps true r
    else if isSpace c then skipGaps false r
    else if c = '#' then skipGaps true r
    else some (c :: r)

def readKeyPart (t : Text) : Except Fault (Key × Text) :=
  match readKey (t.length + 1) t with
  | some (key, '=' :: r) => .ok (key, skipInline r)
  | _ => .error .malformed

mutual

/-- One value. Each call spends one unit of fuel, and at most two calls are made per character. -/
def readValue : Nat → Text → Read Value
  | 0, _ => .error .malformed
  | fuel + 1, t =>
    match t with
    | '"' :: r => orMalformed ((stringChars '"' r).map fun (s, rest) => (.string s, rest))
    | '\'' :: r => orMalformed ((stringChars '\'' r).map fun (s, rest) => (.string s, rest))
    | '[' :: r =>
      match skipGaps false r with
      | none => .error .malformed
      | some (']' :: rest) => .ok (.array [], rest)
      | some r => (readItems fuel r).map fun (items, rest) => (.array items, rest)
    | '\x7b' :: r =>
      match skipInline r with
      | '\x7d' :: rest => .ok (.table [], rest)
      | r => (readPairs fuel ⟨[], []⟩ r).map fun (fields, rest) => (.table fields, rest)
    | t => scalar t

def readItems : Nat → Text → Read (List Value)
  | 0, _ => .error .malformed
  | fuel + 1, t =>
    match readValue fuel t with
    | .error e => .error e
    | .ok (v, r) =>
      match skipGaps false r with
      | some (']' :: rest) => .ok ([v], rest)
      | some (',' :: r) =>
        match skipGaps false r with
        | some (']' :: rest) => .ok ([v], rest)
        | some r => (readItems fuel r).map fun (vs, rest) => (v :: vs, rest)
        | none => .error .malformed
      | _ => .error .malformed

def readPairs : Nat → Inline → Text → Read Fields
  | 0, _, _ => .error .malformed
  | fuel + 1, s, t =>
    match readKeyPart t with
    | .error e => .error e
    | .ok (key, r) =>
      match readValue fuel r with
      | .error e => .error e
      | .ok (v, r) =>
        match s.addPair key v with
        | none => .error .malformed
        | some s =>
          match skipInline r with
          | '\x7d' :: rest => .ok (s.fields, rest)
          | ',' :: r => readPairs fuel s (skipInline r)
          | _ => .error .malformed

end

def readHeader (closing : Text) (t : Text) : Except Fault (Key × Text) :=
  match readKey (t.length + 1) (skipInline t) with
  | some (key, r) => orMalformed ((after? closing r).map fun rest => (key, rest))
  | none => .error .malformed

def readStatement (s : State) (t : Text) : Except Fault (State × Text) :=
  match t with
  | '[' :: '[' :: r => do
    let s := s.settlePending
    let (key, rest) ← readHeader [']', ']'] r
    return (← orMalformed (s.openItem key), rest)
  | '[' :: r => do
    let s := s.settlePending
    let (key, rest) ← readHeader [']'] r
    return (← orMalformed (s.openTable key), rest)
  | t => do
    let (key, r) ← readKeyPart t
    let (v, rest) ← readValue (2 * r.length + 2) r
    return (← orMalformed (s.addPair key v), rest)

def endLine (t : Text) : Option Text :=
  match skipInline t with
  | [] => some []
  | '\n' :: r => some r
  | '#' :: r =>
    let (comment, rest) := r.span (· ≠ '\n')
    if comment.any isIllegal then none else some (rest.drop 1)
  | _ => none

def readStatements : Nat → State → Text → Except Fault State
  | 0, s, _ => .ok s
  | fuel + 1, s, t =>
    match skipInline t with
    | [] => .ok s
    | c :: r =>
      if c = '\n' ∨ c = '#' then
        match endLine (c :: r) with
        | some rest => readStatements fuel s rest
        | none => .error .malformed
      else
        match readStatement s (c :: r) with
        | .error e => .error e
        | .ok (s, rest) =>
          match endLine rest with
          | some rest => readStatements fuel s rest
          | none => .error .malformed

def read (t : Text) : Except Fault Fields :=
  (readStatements (t.length + 1) State.start t).map State.fields

end BattleScript.Toml
