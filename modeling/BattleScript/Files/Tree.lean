import BattleScript.Assoc
import BattleScript.Files.Path
import BattleScript.Text.Symbol

/-!
A tree of files: what stands at each place, and the directory in which relative paths start. Reading
leaves the tree as it is; writing gives the tree after it, also when it fails. Calls that change the tree
can also fail for reasons that are not in it, as when a disk is full.
-/
namespace BattleScript.Files
open Text

inductive Entry where
  | file (content : Bytes)
  | directory
deriving DecidableEq, Repr

inductive Trouble where
  | permission
  | noSpace
  | overQuota
  | device
deriving DecidableEq, Repr

def Trouble.message : Trouble → Text
  | .permission => "[Errno 13] Permission denied"
  | .noSpace => "[Errno 28] No space left on device"
  | .overQuota => "[Errno 122] Disk quota exceeded"
  | .device => "[Errno 5] Input/output error"

inductive Cause where
  | notFound
  | exists
  | notDirectory
  | isDirectory
  | nameTooLong
  | nullCharacter
  | refused (why : Trouble)
  | brokenOff (why : Trouble)
  | notEncoded (content : Symbols)
deriving DecidableEq, Repr

structure Failure where
  cause : Cause
  path : Path
deriving DecidableEq, Repr

def Cause.message : Cause → Text
  | .notFound => "[Errno 2] No such file or directory"
  | .exists => "[Errno 17] File exists"
  | .notDirectory => "[Errno 20] Not a directory"
  | .isDirectory => "[Errno 21] Is a directory"
  | .nameTooLong => "[Errno 36] File name too long"
  | .nullCharacter => "embedded null byte"
  | .refused why => why.message
  | .brokenOff why => why.message
  | .notEncoded content =>
    content.notEncodedMessage "utf-8" "surrogates not allowed" fun s => s.char?.isSome

def Failure.message (f : Failure) : Text :=
  match f.cause with
  | .nullCharacter | .brokenOff _ | .notEncoded _ => f.cause.message
  | cause => cause.message ++ ": " ++ quoted f.path.text

abbrev Place := List Text

/-- A call that fails for a reason outside the tree, and how far a write has come by then. -/
structure Interruption where
  why : Trouble
  written : Nat
deriving DecidableEq, Repr

/-- The interruptions are those of the calls to come, the next one first; past their end there are
none. -/
structure Tree where
  here : Path
  entries : List (Place × Entry)
  ahead : List (Option Interruption) := []
deriving Repr

namespace Tree

def lookup (entries : List (Place × Entry)) (place : Place) : Option Entry :=
  (entries.find? fun e => e.1 = place).map Prod.snd

def insert (entries : List (Place × Entry)) (place : Place) (entry : Entry) : List (Place × Entry) :=
  match entries with
  | [] => [(place, entry)]
  | e :: es => if e.1 = place then (place, entry) :: es else e :: insert es place entry

def at? (t : Tree) (place : Place) : Option Entry :=
  if place = [] then some .directory else lookup t.entries place

def put (t : Tree) (place : Place) (entry : Entry) : Tree :=
  { t with entries := insert t.entries place entry }

def follow (t : Tree) (place : Place) : List Text → Except Cause Place
  | [] => .ok place
  | p :: ps =>
    match t.at? place with
    | none => .error .notFound
    | some (.file _) => .error .notDirectory
    | some .directory =>
      if p = ['.', '.'] then follow t place.dropLast ps
      else if 255 < (Utf8.encode p).length then .error .nameTooLong
      else follow t (place ++ [p]) ps

def sizeLimit : Nat := 4095

def place (t : Tree) (p : Path) : Except Cause Place :=
  if p.parts.any (·.contains '\x00') then .error .nullCharacter
  else if sizeLimit < (Utf8.encode p.text).length then .error .nameTooLong
  else if p.anchor = [] then t.follow t.here.parts p.parts
  else t.follow [] p.parts

def entry? (t : Tree) (p : Path) : Option Entry :=
  match t.place p with
  | .ok place => t.at? place
  | .error _ => none

def isFile (t : Tree) (p : Path) : Bool :=
  match t.entry? p with
  | some (.file _) => true
  | _ => false

def holdsFile (t : Tree) (p : Path) : Except Failure Bool :=
  match t.place p with
  | .error .nameTooLong => .error ⟨.nameTooLong, p⟩
  | .error .nullCharacter => .error ⟨.nullCharacter, p⟩
  | _ => .ok (t.isFile p)

def isDirectory (t : Tree) (p : Path) : Bool :=
  t.entry? p = some .directory

def read (t : Tree) (p : Path) : Except Failure Bytes :=
  match t.place p with
  | .error cause => .error ⟨cause, p⟩
  | .ok place =>
    match t.at? place with
    | none => .error ⟨.notFound, p⟩
    | some .directory => .error ⟨.isDirectory, p⟩
    | some (.file content) => .ok content

def next? (t : Tree) : Option Interruption :=
  t.ahead.head?.join

def advance (t : Tree) : Tree :=
  { t with ahead := t.ahead.tail }

abbrev Write := EStateM Failure Tree

def makeDirectory (p : Path) : Write Unit := do
  let t ← get
  match t.place p with
  | .error cause => throw ⟨cause, p⟩
  | .ok place =>
    match t.at? place, t.next? with
    | some _, _ => throw ⟨.exists, p⟩
    | none, none => set (t.advance.put place .directory)
    | none, some i => do
      set t.advance
      throw ⟨.refused i.why, p⟩

def ensureDirectory (p : Path) : Write Unit := do
  match makeDirectory p (← get) with
  | .ok () t => set t
  | .error f t => do
    set t
    if f.cause ≠ .notFound ∧ t.isDirectory p then pure () else throw f

def ensureDirectories : Nat → Path → Write Unit
  | 0, p => ensureDirectory p
  | depth + 1, p => do
    match makeDirectory p (← get) with
    | .ok () t => set t
    | .error f t => do
      set t
      if f.cause = .notFound ∧ p.parent ≠ p then do
        ensureDirectories depth p.parent
        ensureDirectory p
      else if f.cause ≠ .notFound ∧ t.isDirectory p then pure ()
      else throw f

/-- Opens a file for writing, which makes it empty, and gives its place. Its directory has to exist. -/
def openFile (p : Path) : Write Place := do
  let t ← get
  match t.place p with
  | .error cause => throw ⟨cause, p⟩
  | .ok place =>
    match t.at? place with
    | some .directory => throw ⟨.isDirectory, p⟩
    | _ =>
      match t.at? place.dropLast, t.next? with
      | some .directory, none => do
        set (t.advance.put place (.file []))
        return place
      | some .directory, some i => do
        set t.advance
        throw ⟨.refused i.why, p⟩
      | some (.file _), _ => throw ⟨.notDirectory, p⟩
      | none, _ => throw ⟨.notFound, p⟩

def fill (p : Path) (place : Place) (content : Bytes) : Write Unit := do
  let t ← get
  match t.next? with
  | none => set (t.advance.put place (.file content))
  | some i => do
    set (t.advance.put place (.file (content.take i.written)))
    throw ⟨.brokenOff i.why, p⟩

/-- Writes a file. That its content cannot be encoded is noticed when the file is open. -/
def write (p : Path) (content : Symbols) : Write Unit := do
  let place ← openFile p
  match content.encode? with
  | some bytes => fill p place bytes
  | none => throw ⟨.notEncoded content, p⟩

end Tree
end BattleScript.Files
