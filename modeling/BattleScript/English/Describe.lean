import BattleScript.English.Phrase
import BattleScript.Names.Verdict

/-!
A script told in English. With a resolver, ids are looked up and every reference that is not a clean
match is followed by a remark; without one, references are shown as written.
-/
namespace BattleScript.English
open Text Script Names

abbrev Telling := Except LookupError Text

/-- A reference as it is shown, and the remark that follows it. -/
structure Mention where
  label : Text
  note : Text
deriving DecidableEq, Repr

def named (name id : Text) (bare : Text) : Text :=
  if name = [] then bare else name ++ " (" ++ id ++ ")"

def shownName (v : Verdict) : Text :=
  match v.provided with
  | some (c :: r) => c :: r
  | _ => v.resolved.getD []

def Mention.ofVerdict (arg : Text) : Option Verdict → Mention
  | none => ⟨arg, []⟩
  | some v =>
    if v.check = .noId then ⟨arg, v.note⟩ else ⟨named (shownName v) v.id v.id, v.note⟩

def mention (names : Option Resolver) (kind : NameKind) (arg : Text) : Except LookupError Mention :=
  match names with
  | none =>
    let ref := NamedId.ofText arg
    .ok ⟨named (ref.name.getD []) ref.id arg, []⟩
  | some r => (verify r kind arg).map (Mention.ofVerdict arg)

def owner : Side → Text
  | .self => "your"
  | side => side.word

def targetPhrase (names : Option Resolver) (target : Target) : Telling :=
  match target.pet with
  | none | some [] => .ok (owner target.side ++ " active pet")
  | some ('#' :: slot) => .ok (owner target.side ++ " pet #" ++ slot)
  | some arg =>
    (mention names .pet arg).map fun m =>
      if m.label = arg ∧ ':' ∉ arg then target.side.word ++ '(' :: arg ++ ')' :: m.note
      else owner target.side ++ " pet " ++ m.label ++ m.note

def subject (names : Option Resolver) (target : Target) : Telling :=
  (targetPhrase names target).map capitalize

def describeAbility (names : Option Resolver) : Option Text → Telling
  | none => .ok "Use ability"
  | some arg =>
    if names.isSome ∧ arg.head? = some '#' then .ok ("Use ability in slot " ++ arg)
    else (mention names .ability arg).map fun m => "Use ability " ++ m.label ++ m.note

def describeChange (names : Option Resolver) : Option Text → Telling
  | none => .ok "Change pet"
  | some arg =>
    if arg = Text.of "next" then .ok "Change to next pet"
    else (mention names .pet arg).map fun m => "Change to pet " ++ m.label ++ m.note

def isAffirmative (operator : Operator) (value : Text) : Bool :=
  (operator = .equals && value ≠ Text.of "false") || (operator = .notEquals && value = Text.of "false")

def petComparison (holds : Bool) (property : Text) (operator : Operator) (value who : Text) : Text :=
  if (operator = .equals ∨ operator = .notEquals) ∧ isBooleanProperty property then
    who ++ ' ' :: booleanVerb property holds
  else if property = Text.of "hpp" then who ++ "'s health " ++ healthPercentPhrase operator value
  else if property = Text.of "hp" then who ++ "'s health " ++ healthPointsPhrase operator value
  else who ++ "'s " ++ propertyName property ++ ' ' :: operatorWords operator ++ ' ' :: value

def abilityComparison (holds : Bool) (property : Text) (operator : Operator) (value who : Text)
    (m : Mention) : Text :=
  if property = Text.of "usable" then
    who ++ "'s ability " ++ m.label ++ (if holds then " is ready" else " is NOT ready") ++ m.note
  else
    who ++ " ability " ++ m.label ++ ' ' :: propertyName property ++ ' ' :: operatorWords operator ++
      ' ' :: value ++ m.note

def auraComparison (holds : Bool) (property : Text) (operator : Operator) (value who : Text)
    (m : Mention) : Text :=
  if property = Text.of "exists" then
    who ++ (if holds then " has aura " else " does NOT have aura ") ++ m.label ++ m.note
  else if property = Text.of "duration" then
    who ++ " aura " ++ m.label ++ ' ' :: auraDurationPhrase operator value ++ m.note
  else
    who ++ " aura " ++ m.label ++ ' ' :: propertyName property ++ ' ' :: operatorWords operator ++
      ' ' :: value ++ m.note

def describeComparison (names : Option Resolver) (p : Predicate) (operator : Operator) : Telling :=
  let value := p.value.getD []
  let holds := isAffirmative operator value != p.negated
  match p.selector with
  | none =>
    .ok (capitalize (p.selectorRaw ++ ' ' :: operatorWords operator ++ ' ' :: value))
  | some (.global s) =>
    .ok (capitalize s.word ++ ' ' :: operatorWords operator ++ ' ' :: value)
  | some (.pet target property) => do
    return petComparison holds property operator value (← subject names target)
  | some (.ability target ref property) => do
    let who ← subject names target
    return abilityComparison holds property operator value who (← mention names .ability ref.text)
  | some (.aura target ref property) => do
    let who ← subject names target
    return auraComparison holds property operator value who (← mention names .aura ref.text)

def describeBoolean (names : Option Resolver) (p : Predicate) : Telling :=
  let holds := !p.negated
  match p.selector with
  | none => .ok ((if holds then [] else Text.of "NOT ") ++ capitalize p.selectorRaw)
  | some (.global s) => .ok (capitalize s.word ++ (if holds then " is set" else " is NOT set"))
  | some (.pet target property) => do
    return (← subject names target) ++ ' ' :: booleanVerb property holds
  | some (.ability target ref property) => do
    let who ← subject names target
    let m ← mention names .ability ref.text
    let verb : Text :=
      if property = Text.of "usable" then (if holds then "is ready" else "is NOT ready")
      else booleanVerb property holds
    return who ++ "'s ability " ++ m.label ++ ' ' :: verb ++ m.note
  | some (.aura target ref _) => do
    let who ← subject names target
    let m ← mention names .aura ref.text
    return who ++ (if holds then " has aura " else " does NOT have aura ") ++ m.label ++ m.note

def describePredicate (names : Option Resolver) (p : Predicate) : Telling :=
  match p.operator with
  | none => describeBoolean names p
  | some operator => describeComparison names p operator

def describePredicates (names : Option Resolver) : List Predicate → Except LookupError (List Text)
  | [] => .ok []
  | p :: ps => do
    let t ← describePredicate names p
    return t :: (← describePredicates names ps)

def describeCondition (names : Option Resolver) (c : Condition) : Telling :=
  (describePredicates names c.predicates).map (join " AND ")

def describeCommand (names : Option Resolver) (a : Action) : Telling :=
  match a.kind with
  | .ability => describeAbility names a.args
  | .change => describeChange names a.args
  | .test => .ok ("Print debug message: " ++ a.args.getD "None")
  | .standby => .ok "Pass this turn"
  | .quit => .ok "Forfeit the battle"
  | .capture => .ok "Attempt to catch the enemy pet"
  | .unknown => .ok a.command

def describeAction (names : Option Resolver) (a : Action) : Telling := do
  let base ← describeCommand names a
  match a.condition with
  | none => return base
  | some c => return base ++ " if " ++ (← describeCondition names c)

def describeNode (names : Option Resolver) : Node → Telling
  | .action a => describeAction names a
  | .block head _ => (describeCondition names head.condition).map ("If " ++ ·)
  | .error message _ => .ok ("Error: " ++ message)
  | .separator _ => .ok "--"

structure Step where
  depth : Nat
  node : Node
  text : Text

def Step.badge (s : Step) : Option Text :=
  s.node.conditionRaw?.bind roundBadge

def describeSteps (names : Option Resolver) : List (Nat × Node) → Except LookupError (List Step)
  | [] => .ok []
  | (depth, node) :: rest => do
    let text ← describeNode names node
    return ⟨depth, node, text⟩ :: (← describeSteps names rest)

/-- Every node of a tree with its depth and description, depth first. -/
def tell (names : Option Resolver) (nodes : List Node) : Except LookupError (List Step) :=
  describeSteps names (Node.walkAll 0 nodes)

end BattleScript.English
