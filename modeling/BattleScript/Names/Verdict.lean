import BattleScript.Names.Resolver
import BattleScript.Script.Node

/-!
Checking the names that a script writes beside its ids. Each reference to an ability, an aura or a pet
gets a verdict; slots such as `#2` name nothing and get none.
-/
namespace BattleScript.Names
open Text Script

inductive NameCheck where
  | agrees
  | mismatch
  | noId
  | notFound
deriving DecidableEq, Repr

def NameCheck.word : NameCheck → Text
  | agrees => "match"
  | mismatch => "mismatch"
  | noId => "no_id"
  | notFound => "not_found"

def classify (provided : Option Text) (id : Text) (resolved : Option Text) : NameCheck :=
  if !isNumericId id then .noId
  else match resolved with
    | none => .notFound
    | some name =>
      match provided with
      | some given => if given = name then .agrees else .mismatch
      | none => .agrees

structure Verdict where
  kind : NameKind
  raw : Text
  id : Text
  provided : Option Text
  resolved : Option Text
  check : NameCheck
deriving DecidableEq, Repr

namespace Verdict

def isProblem (v : Verdict) : Bool :=
  v.check ≠ .agrees

def shown (name : Option Text) : Text :=
  name.getD []

def text (v : Verdict) : Text :=
  match v.check with
  | .mismatch =>
    v.kind.word ++ " name mismatch: script says '" ++ shown v.provided ++ "' but catalog says '" ++
      shown v.resolved ++ "' (id " ++ v.id ++ ")"
  | .notFound => v.kind.word ++ " id " ++ v.id ++ " not found in name catalog"
  | .noId => "no " ++ v.kind.word ++ " id provided for '" ++ v.raw ++ "'; cannot verify name"
  | .agrees => v.kind.word ++ ' ' :: v.raw ++ " matches catalog"

def note (v : Verdict) : Text :=
  match v.check with
  | .agrees => []
  | .mismatch =>
    " [name mismatch: script says '" ++ shown v.provided ++ "' but catalog says '" ++
      shown v.resolved ++ "']"
  | .notFound => " [" ++ v.kind.word ++ " id " ++ v.id ++ " not found]"
  | .noId => " [no " ++ v.kind.word ++ " id given]"

end Verdict

/-- The display name of a reference; only numeric ids are looked up. -/
def resolve (r : Resolver) (kind : NameKind) (id : Text) : Except LookupError (Option Text) :=
  if !isNumericId id then .ok none
  else match kind with
    | .ability => (r.lookupAbility id).map (·.map stripIdSuffix)
    | .aura => r.lookupAura id
    | .pet => r.lookupPet id

def verify (r : Resolver) (kind : NameKind) (arg : Text) : Except LookupError (Option Verdict) :=
  if arg.head? = some '#' then .ok none
  else
    let ref := NamedId.ofText arg
    (resolve r kind ref.id).map fun resolved =>
      some ⟨kind, arg, ref.id, ref.name, resolved, classify ref.name ref.id resolved⟩

def verifyTarget (r : Resolver) (t : Target) : Except LookupError (List Verdict) :=
  match t.pet with
  | none => .ok []
  | some arg => if arg = [] then .ok [] else do return (← verify r .pet arg).toList

def verifySelector (r : Resolver) : Option Selector → Except LookupError (List Verdict)
  | none => .ok []
  | some (.global _) => .ok []
  | some (.pet target _) => verifyTarget r target
  | some (.ability target ref _) => do
    let pet ← verifyTarget r target
    let own ← verify r .ability ref.text
    return pet ++ own.toList
  | some (.aura target ref _) => do
    let pet ← verifyTarget r target
    let own ← verify r .aura ref.text
    return pet ++ own.toList

def verifyPredicates (r : Resolver) : List Predicate → Except LookupError (List Verdict)
  | [] => .ok []
  | p :: ps => do
    let own ← verifySelector r p.selector
    let rest ← verifyPredicates r ps
    return own ++ rest

def verifyCondition (r : Resolver) : Option Condition → Except LookupError (List Verdict)
  | none => .ok []
  | some c => verifyPredicates r c.predicates

def verifyArgument (r : Resolver) (a : Action) : Except LookupError (Option Verdict) :=
  match a.kind, a.args with
  | .ability, some arg => verify r .ability arg
  | .change, some arg => if arg = Text.of "next" then .ok none else verify r .pet arg
  | _, _ => .ok none

def verifyAction (r : Resolver) (a : Action) : Except LookupError (List Verdict) := do
  let own ← verifyArgument r a
  let rest ← verifyCondition r a.condition
  return own.toList ++ rest

mutual

def verifyNode (r : Resolver) : Node → Except LookupError (List (Int × Verdict))
  | .action a => do return (← verifyAction r a).map fun v => (a.line, v)
  | .block head children => do
    let own ← verifyCondition r (some head.condition)
    let inner ← verifyTree r children
    return own.map (fun v => (head.line, v)) ++ inner
  | _ => .ok []

/-- Every verdict of a tree with its source line. -/
def verifyTree (r : Resolver) : List Node → Except LookupError (List (Int × Verdict))
  | [] => .ok []
  | n :: ns => do
    let own ← verifyNode r n
    let rest ← verifyTree r ns
    return own ++ rest

end

end BattleScript.Names
