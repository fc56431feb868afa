import BattleScript.Files.Tree
import BattleScript.Json.Reader
import BattleScript.Text.Newline
import BattleScript.Text.Upper
import BattleScript.Toml.Document

/-!
Settings: where the catalog files are, which part of the game data is meant, and the log level. They
come from the nearest settings file above a script, or from one that is named.
-/
namespace BattleScript
open Text Files

structure Settings where
  abilities : Path
  pets : Path
  region : Text
  locale : Text
  level : Text
  source : Option Path
deriving DecidableEq, Repr

namespace Settings

def fileName : Path := Path.ofText "petscript.toml"

def defaultAbilities : Text := "pet-abilities.json"

def defaultPets : Text := "pet-list.json"

def default : Settings :=
  { abilities := Path.ofText defaultAbilities
    pets := Path.ofText defaultPets
    region := "us"
    locale := "en_US"
    level := "WARNING"
    source := none }

inductive Error where
  | malformed (path : Path)
  | unreadable (failure : Failure)
  | notTable (table : Text)
  | notString (table key kind : Text)
  | notUtf8 (fault : Utf8.Fault)
  | tooManyDigits (digits : Nat)
  | unusable (failure : Failure)
deriving DecidableEq, Repr

def Error.message : Error → Text
  | malformed path => "Invalid TOML in " ++ path.text
  | unreadable failure => "Cannot read config file " ++ failure.path.text ++ ": " ++ failure.message
  | notTable table => "[" ++ table ++ "] must be a table"
  | notString table key kind => "[" ++ table ++ "] " ++ key ++ " must be a string, got " ++ kind
  | notUtf8 fault => fault.message
  | tooManyDigits digits => Json.digitsMessage digits
  | unusable failure => failure.message

/-- The faults that are reported as such; the other three are not foreseen. -/
def Error.isReported : Error → Bool
  | notUtf8 _ => false
  | tooManyDigits _ => false
  | unusable _ => false
  | _ => true

def table (document : Toml.Fields) (name : Text) : Except Error Toml.Fields :=
  match Assoc.get? name document with
  | none => .ok []
  | some (.table fields) => .ok fields
  | some _ => .error (.notTable name)

def text (fields : Toml.Fields) (name key fallback : Text) : Except Error Text :=
  match Assoc.get? key fields with
  | none => .ok fallback
  | some (.string t) => .ok t
  | some v => .error (.notString name key v.kindWord)

/-- The settings in a document. Relative catalog paths start at the directory of the file. -/
def ofDocument (path : Path) (document : Toml.Fields) : Except Error Settings := do
  let catalog ← table document "catalog"
  let api ← table document "api"
  let logging ← table document "logging"
  let abilities ← text catalog "catalog" "abilities" defaultAbilities
  let pets ← text catalog "catalog" "pets" defaultPets
  let region ← text api "api" "region" default.region
  let locale ← text api "api" "locale" default.locale
  let level ← text logging "logging" "level" default.level
  return {
    abilities := path.parent.append (Path.ofText abilities)
    pets := path.parent.append (Path.ofText pets)
    region
    locale
    level := upper level
    source := some path }

def ofBytes (path : Path) (bytes : Bytes) : Except Error Settings :=
  match Utf8.decode bytes with
  | .error fault => .error (.notUtf8 fault)
  | .ok t =>
    match Toml.read (unifyNewlines t) with
    | .error .malformed => .error (.malformed path)
    | .error (.tooManyDigits digits) => .error (.tooManyDigits digits)
    | .ok document => ofDocument path document

def load (files : Files.Tree) (path : Path) : Except Error Settings :=
  match files.read path with
  | .ok bytes => ofBytes path bytes
  | .error failure =>
    if failure.cause = .nullCharacter then .error (.unusable failure)
    else .error (.unreadable failure)

def findIn (files : Files.Tree) : List Path → Except Failure (Option Path)
  | [] => .ok none
  | directory :: directories => do
    let path := directory.append fileName
    if ← files.holdsFile path then return some path else findIn files directories

def find (files : Files.Tree) (start : Path) : Except Failure (Option Path) := do
  let full := files.here.resolve start
  if start.parts.any (·.contains '\x00') then throw ⟨.nullCharacter, start⟩
  let directory := if ← files.holdsFile full then full.parent else full
  findIn files directory.withParents

def resolve (files : Files.Tree) (named : Option Path) (start : Path) : Except Error Settings := do
  let path ← match named with
    | some path => pure (some path)
    | none => (find files start).mapError .unusable
  match path with
  | some path => load files path
  | none => .ok default

end Settings
end BattleScript
