import BattleScript.Script.Action

/-!
Selectors: the left-hand side of a comparison, such as `enemy.hpp` or `self(#2).ability(X:595).usable`.
The four shapes are tried in order, so that a failed ability or aura path is still a pet property.
-/
namespace BattleScript.Script
open Text

inductive Side where
  | self
  | enemy
  | ally
deriving DecidableEq, Repr

namespace Side

def all : List Side := [self, enemy, ally]

def word : Side → Text
  | self => "self"
  | enemy => "enemy"
  | ally => "ally"

def ofWord? (t : Text) : Option Side :=
  all.find? fun s => s.word = t

end Side

inductive Subject where
  | weather
  | round
deriving DecidableEq, Repr

namespace Subject

def all : List Subject := [weather, round]

def word : Subject → Text
  | weather => "weather"
  | round => "round"

def ofWord? (t : Text) : Option Subject :=
  all.find? fun s => s.word = t

end Subject

structure NamedId where
  name : Option Text
  id : Text
deriving DecidableEq, Repr

namespace NamedId

/-- Reads `Name:Id`; anything from a second colon on is dropped. -/
def ofText (arg : Text) : NamedId :=
  match splitOn ':' arg with
  | name :: id :: _ => ⟨some name, id⟩
  | _ => ⟨none, arg⟩

def text : NamedId → Text
  | ⟨some name, id⟩ => name ++ ':' :: id
  | ⟨none, id⟩ => id

end NamedId

structure Target where
  side : Side
  pet : Option Text
deriving DecidableEq, Repr

inductive Selector where
  | global (subject : Subject)
  | pet (target : Target) (property : Text)
  | ability (target : Target) (ref : NamedId) (property : Text)
  | aura (target : Target) (ref : NamedId) (property : Text)
deriving DecidableEq, Repr

namespace Selector

/-- A non-empty rest on one line; one line break may follow it. -/
def lastPart (t : Text) : Option Text :=
  match t.span (· ≠ '\n') with
  | (c :: r, []) => some (c :: r)
  | (c :: r, ['\n']) => some (c :: r)
  | _ => none

def target? (t : Text) : Option (Target × Text) :=
  Side.all.findSome? fun side =>
    match after? side.word t with
    | some ('(' :: r) => (untilClose r).map fun (which, rest) => (⟨side, some which⟩, rest)
    | some rest => some (⟨side, none⟩, rest)
    | none => none

def member? (member : Text) (t : Text) : Option (NamedId × Text) :=
  match after? ('.' :: member ++ ['(']) t with
  | some r =>
    match untilClose r with
    | some (arg, '.' :: rest) => (lastPart rest).map fun property => (NamedId.ofText arg, property)
    | _ => none
  | none => none

def propertyAlias (property : Text) : Text :=
  if property = Text.of "speed.fast" then "fast"
  else if property = Text.of "speed.slow" then "slow"
  else property

def ability? (t : Text) : Option Selector :=
  match target? t with
  | some (target, rest) => (member? "ability" rest).map fun (ref, property) => .ability target ref property
  | none => none

def aura? (t : Text) : Option Selector :=
  match target? t with
  | some (target, rest) => (member? "aura" rest).map fun (ref, property) => .aura target ref property
  | none => none

def pet? (t : Text) : Option Selector :=
  match target? t with
  | some (target, '.' :: rest) => (lastPart rest).map fun property => .pet target (propertyAlias property)
  | _ => none

def global? (t : Text) : Option Selector :=
  match lastPart t with
  | some word => (Subject.ofWord? word).map .global
  | none => none

def ofText? (t : Text) : Option Selector :=
  ability? t <|> aura? t <|> pet? t <|> global? t

end Selector
end BattleScript.Script
