import BattleScript.Files.Tree
import BattleScript.Json.Label
import BattleScript.Json.Reader
import BattleScript.Json.Writer
import BattleScript.Text.Newline

/-!
Name catalogs: the names of abilities and of pets by id, kept in two JSON files.
-/
namespace BattleScript.Names
open Text Files

/-- Names by id, in order of first insertion; no id comes twice. -/
structure NameMap (σ : Type := Text) where
  entries : List (σ × σ)
  distinct : (Assoc.keys entries).Nodup
deriving DecidableEq

namespace NameMap

def empty {σ : Type} : NameMap σ := ⟨[], List.nodup_nil⟩

def size {σ : Type} (m : NameMap σ) : Nat := m.entries.length

def toJson {σ : Type} (m : NameMap σ) : Json σ :=
  .object (m.entries.map fun p => (p.1, .string p.2))

section
variable {σ : Type} [DecidableEq σ]

def put (m : NameMap σ) (id name : σ) : NameMap σ :=
  ⟨Assoc.put id name m.entries, Assoc.nodup_keys_put id name m.entries m.distinct⟩

def get? (m : NameMap σ) (id : σ) : Option σ :=
  Assoc.get? id m.entries

def ofList (pairs : List (σ × σ)) : NameMap σ :=
  pairs.foldl (fun m p => m.put p.1 p.2) empty

end

/-- The names as texts. An id that is no text cannot be asked for, so its name is left out. -/
def shown (m : NameMap Symbols) : NameMap :=
  ofList (m.entries.filterMap fun p => p.1.text?.map fun id => (id, p.2.shown))

def fileText {α : Type} [Json.Letter α] (m : NameMap (List α)) : List α :=
  Json.write 0 m.toJson ++ Json.letters ['\n']

end NameMap

structure Catalog (σ : Type := Text) where
  abilities : NameMap σ
  pets : NameMap σ
deriving DecidableEq

def Catalog.empty : Catalog := ⟨NameMap.empty, NameMap.empty⟩

inductive LoadError where
  | notFound (path : Path)
  | unreadable (failure : Failure)
  | notUtf8 (path : Path) (fault : Utf8.Fault)
  | notJson (path : Path) (document : Text) (what : Json.Expectation) (left : Nat)
  | notObject (path : Path)
  | tooManyDigits (digits : Nat)
  | nullCharacter
deriving DecidableEq

namespace LoadError

def message : LoadError → Text
  | notFound path => "Catalog file not found: " ++ path.text
  | unreadable failure =>
    "Cannot read catalog file " ++ failure.path.text ++ ": " ++ failure.message
  | notUtf8 path fault =>
    "Catalog file " ++ path.text ++ " is not valid UTF-8: " ++ fault.message
  | notJson path document what left =>
    "Invalid JSON in catalog file " ++ path.text ++ ": " ++ what.message ++ ": " ++
      Json.placeMessage document left
  | notObject path => "Catalog file " ++ path.text ++ " must contain an object of id -> name"
  | tooManyDigits digits => Json.digitsMessage digits
  | nullCharacter => Cause.message .nullCharacter

/-- The faults of the file itself; the other two are not foreseen by those who load a catalog. -/
def isFileFault : LoadError → Bool
  | tooManyDigits _ => false
  | nullCharacter => false
  | _ => true

end LoadError

def NameMap.ofJson? : Json Symbols → Option (NameMap Symbols)
  | .object fields => some (NameMap.ofList (fields.map fun f => (f.1, f.2.label)))
  | _ => none

def NameMap.ofBytes (path : Path) (bytes : Bytes) : Except LoadError NameMap :=
  match Utf8.decode bytes with
  | .error fault => .error (.notUtf8 path fault)
  | .ok text =>
    let document := unifyNewlines text
    match Json.read document.symbols with
    | .error (.tooManyDigits digits) => .error (.tooManyDigits digits)
    | .error (.expected what left) => .error (.notJson path document what left)
    | .ok value =>
      match NameMap.ofJson? value with
      | some names => .ok names.shown
      | none => .error (.notObject path)

def NameMap.read (files : Files.Tree) (path : Path) : Except LoadError NameMap :=
  match files.read path with
  | .ok bytes => NameMap.ofBytes path bytes
  | .error failure =>
    match failure.cause with
    | .notFound => .error (.notFound path)
    | .nullCharacter => .error .nullCharacter
    | _ => .error (.unreadable failure)

def Catalog.read (files : Files.Tree) (abilities pets : Path) : Except LoadError Catalog :=
  match NameMap.read files abilities with
  | .error e => .error e
  | .ok abilities =>
    match NameMap.read files pets with
    | .error e => .error e
    | .ok pets => .ok ⟨abilities, pets⟩

def NameMap.write {α : Type} [Json.Letter α] (names : NameMap (List α)) (path : Path) :
    Tree.Write Unit := do
  Tree.ensureDirectories path.parent.parts.length path.parent
  Tree.write path (names.fileText.map Json.Letter.symbol)

def Catalog.write {α : Type} [Json.Letter α] (catalog : Catalog (List α)) (abilities pets : Path) :
    Tree.Write Unit := do
  catalog.abilities.write abilities
  catalog.pets.write pets

end BattleScript.Names
