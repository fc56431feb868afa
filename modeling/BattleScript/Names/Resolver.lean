import BattleScript.Names.Catalog
import BattleScript.Log
import BattleScript.Text.Digit

/-!
Looking up names. A resolver settles once, with a catalog or without one; before that, looking
something up is an error. An aura is named after the ability whose id follows its own.
-/
namespace BattleScript.Names
open Text Files

inductive NameKind where
  | ability
  | aura
  | pet
deriving DecidableEq, Repr

def NameKind.word : NameKind → Text
  | ability => "ability"
  | aura => "aura"
  | pet => "pet"

inductive LookupError where
  | notLoaded
  | idTooLong (digits : Nat)
  | successorTooLong
deriving DecidableEq, Repr

def LookupError.message : LookupError → Text
  | notLoaded => "Name catalog has not been loaded yet"
  | idTooLong digits => Json.digitsMessage digits
  | successorTooLong =>
    "Exceeds the limit (" ++ ofNat Json.digitLimit ++ " digits) for integer string conversion; " ++
      "use sys.set_int_max_str_digits() to increase the limit"

def isNumericId (t : Text) : Bool :=
  t ≠ [] && t.all isAsciiDigit

def stripIdSuffix (name : Text) : Text :=
  name.takeWhile (· ≠ ':')

/-- The id of the ability that an aura is named after, if the aura has a numeric id. -/
def auraAbilityId (id : Text) : Except LookupError (Option Text) :=
  if !isNumericId id then .ok none
  else if id.length > Json.digitLimit then .error (.idTooLong id.length)
  else
    let next := ofNat (Json.decimalValue id + 1)
    if next.length > Json.digitLimit then .error .successorTooLong else .ok (some next)

inductive Resolver where
  | pending
  | failed
  | loaded (catalog : Catalog)
deriving DecidableEq

namespace Resolver

def start : Option Catalog → Resolver
  | some catalog => loaded catalog
  | none => pending

def stateWord : Resolver → Text
  | pending => "pending"
  | failed => "failed"
  | loaded _ => "loaded"

structure AlreadySettled where
  state : Text
deriving DecidableEq, Repr

def AlreadySettled.message (e : AlreadySettled) : Text :=
  "Catalog already " ++ e.state

def settle (outcome : Option Catalog) (r : Resolver) : Except AlreadySettled Resolver :=
  match r, outcome with
  | pending, some catalog => .ok (loaded catalog)
  | pending, none => .ok failed
  | r, _ => .error ⟨r.stateWord⟩

def markLoaded (r : Resolver) (catalog : Catalog) : Except AlreadySettled Resolver :=
  r.settle (some catalog)

def markFailed (r : Resolver) : Except AlreadySettled Resolver :=
  r.settle none

def catalog : Resolver → Except LookupError Catalog
  | pending => .error .notLoaded
  | failed => .ok Catalog.empty
  | loaded catalog => .ok catalog

def lookupAbility (r : Resolver) (id : Text) : Except LookupError (Option Text) :=
  r.catalog.map fun c => c.abilities.get? id

def lookupPet (r : Resolver) (id : Text) : Except LookupError (Option Text) :=
  r.catalog.map fun c => c.pets.get? id

def lookupAura (r : Resolver) (id : Text) : Except LookupError (Option Text) := do
  match ← auraAbilityId id with
  | none => pure none
  | some abilityId => return (← r.lookupAbility abilityId).map stripIdSuffix

def lookup (r : Resolver) : NameKind → Text → Except LookupError (Option Text)
  | .ability => r.lookupAbility
  | .aura => r.lookupAura
  | .pet => r.lookupPet

end Resolver

def logSource : Text := "petscript.core.names"

def loadFailedRecord (message : Text) : LogRecord :=
  ⟨.warning, logSource, "Failed to load name catalog: " ++ message⟩

def Resolver.ofFiles (files : Files.Tree) (abilities pets : Path) :
    Except LoadError (Resolver × List LogRecord) :=
  match Catalog.read files abilities pets with
  | .ok catalog => .ok (.loaded catalog, [])
  | .error e => if e.isFileFault then .ok (.failed, [loadFailedRecord e.message]) else .error e

end BattleScript.Names
