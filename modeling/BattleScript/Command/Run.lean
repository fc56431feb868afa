import BattleScript.Command.Invocation
import BattleScript.Command.Outline
import BattleScript.Command.Styling
import BattleScript.Command.Table
import BattleScript.Download
import BattleScript.English.Describe
import BattleScript.Json.Writer
import BattleScript.Script.Dump
import BattleScript.Script.File
import BattleScript.Settings

/-!
The commands. Each reads from a tree of files and writes to the two output streams; only the download
changes the tree.
-/
namespace BattleScript.Command
open Text Files Script Names Diagnostic

/-- An error that no command is prepared for. -/
inductive Crash where
  | settings (e : Settings.Error)
  | load (e : LoadError)
  | lookup (e : LookupError)
  | file (f : Failure)
  | download (e : Download.Error)
  | markup (f : Markup.Fault)
  | address

def Crash.message : Crash → Text
  | settings e => e.message
  | load e => e.message
  | lookup e => e.message
  | file f => f.message
  | download e => e.message
  | markup f => f.message
  | address => "list index out of range"

inductive Stop where
  | code (n : Nat)
  | crash (c : Crash)

/-- The files, what has been written to the two streams, and the least rank of records that are logged;
nothing is logged before a level is chosen. -/
structure Screen where
  files : Files.Tree
  stdout : Text
  stderr : Text
  threshold : Option Nat

abbrev Run := EStateM Stop Screen

namespace Run

def out (t : Text) : Run Unit :=
  modify fun s => { s with stdout := s.stdout ++ t }

def errLine (t : Text) : Run Unit :=
  modify fun s => { s with stderr := s.stderr ++ t ++ ['\n'] }

def err (t : Text) : Run Unit :=
  errLine (dropStyling 0 t)

def log (r : LogRecord) : Run Unit := do
  match (← get).threshold with
  | some rank => if rank ≤ r.severity.rank then errLine r.text
  | none => pure ()

def logAll : List LogRecord → Run Unit
  | [] => pure ()
  | r :: rs => do
    log r
    logAll rs

def crash (c : Crash) : Run α :=
  throw (.crash c)

def failWith (message : Text) : Run α := do
  err ("Error: " ++ message)
  throw (.code 1)

def orCrash (f : ε → Crash) : Except ε α → Run α
  | .ok a => pure a
  | .error e => crash (f e)

end Run

open Run

def setUpLogging (level : Option Text) (s : Settings) : Run Unit := do
  let name := (level.map upper).getD s.level
  match thresholdOf? name with
  | some rank => modify fun s => { s with threshold := some rank }
  | none =>
    err ("Unknown log level '" ++ name ++ "', using WARNING")
    modify fun s => { s with threshold := some 30 }

def loadSettings (level : Option Text) (named : Option Path) (start : Path) : Run Settings := do
  match Settings.resolve (← get).files named start with
  | .ok s =>
    setUpLogging level s
    return s
  | .error e => if e.isReported then failWith e.message else crash (.settings e)

def readScript (path : Path) : Run (List Node) := do
  let bytes ← orCrash .file ((← get).files.read path)
  match readBytes path bytes with
  | .ok (nodes, notes) =>
    logAll (notes.map Note.record)
    return nodes
  | .error e => failWith e.text

def loadResolver (s : Settings) : Run Resolver := do
  let (r, records) ← orCrash .load (Resolver.ofFiles (← get).files s.abilities s.pets)
  logAll records
  return r

def closeWith (failed : Bool) : Run Unit :=
  if failed then throw (.code 1) else pure ()

def styled (style label : Text) : Text :=
  Markup.bracketed style ++ label ++ Markup.bracketed ('/' :: style)

def conditionLabel (condition : Text) : Text :=
  ' ' :: styled "cyan" (Markup.escape (Markup.bracketed condition))

def placeLabel (place : Text) : Text :=
  ' ' :: styled "bright_black" ('(' :: place ++ [')'])

def nodeLabel : Node → Text
  | .separator _ => styled "bright_black" "--"
  | .action a =>
    styled "green" a.kind.word ++ ' ' :: Markup.escape a.command ++
      (match a.conditionRaw with
        | some c => conditionLabel c
        | none => []) ++ placeLabel ("line " ++ ofInt a.line)
  | .error message line =>
    styled "red" "error" ++ ' ' :: Markup.escape message ++ placeLabel ("line " ++ ofInt line)
  | .block head _ =>
    styled "bold" "if" ++ conditionLabel head.conditionRaw ++
      placeLabel ("lines " ++ ofInt head.line ++ '-' ::
        (match head.endLine with
          | some n => ofInt n
          | none => ['?']))

def outlineTitle (script : Path) : Text :=
  shown (styled "bold" (Markup.escape script.name))

mutual

def nodeBranch : Node → Branch
  | .block head children => .node (shown (nodeLabel (.block head []))) (nodeBranches children)
  | n => .node (shown (nodeLabel n)) []

def nodeBranches : List Node → List Branch
  | [] => []
  | n :: ns => nodeBranch n :: nodeBranches ns

end

def runParse (script : Path) (json : Bool) : Run Unit := do
  let nodes ← readScript script
  if json then out (Json.write 0 (dump nodes) ++ ['\n'])
  else out (drawOutline (outlineTitle script) (nodeBranches nodes))
  closeWith (!(Node.problemsAll nodes).isEmpty)

def stepLabel (s : English.Step) : Text :=
  let text := Markup.escape s.text
  let label := match s.node with
    | .error .. => styled "red" text
    | _ => text
  match s.badge with
  | some badge => styled "magenta" (Markup.escape badge) ++ ' ' :: label
  | none => label

def runDescribe (level : Option Text) (script : Path) (named : Option Path) (useNames : Bool) :
    Run Unit := do
  let s ← loadSettings level named script
  let names ← if useNames then some <$> loadResolver s else pure none
  let nodes ← readScript script
  let steps ← orCrash .lookup (English.tell names nodes)
  match Building.start.addAll? (steps.map fun s => (s.depth, shown (stepLabel s))) with
  | some outline => out (drawOutline (outlineTitle script) outline.branches)
  | none => crash .address

/-- The lines of a script as they are shown, where every line end counts. -/
def shownLines (bytes : Bytes) : List Text :=
  splitOn '\n' (unifyNewlines (Utf8.decodeLossy bytes))

def isMismatch (v : Verdict) : Bool :=
  v.check = .mismatch

def humanReport (script : Path) (lines : List Text) (problems : List Problem)
    (verdicts : List (Int × Verdict)) : List Text :=
  problems.map (fun p =>
      "ERROR: " ++ p.message ++ '\n' :: (Context.ofLines script lines p.line).text ++ ['\n']) ++
    verdicts.map fun (line, v) =>
      (if isMismatch v then "ERROR" else "WARNING") ++ ": line " ++ ofInt line ++ ": " ++ v.text

def editorReport (script : Path) (lines : List Text) (problems : List Problem)
    (verdicts : List (Int × Verdict)) : List Text :=
  let place (line : Int) : Text :=
    script.text ++ ':' :: ofInt line ++ ':' :: ofInt (Context.ofLines script lines line).column ++ ": "
  problems.map (fun p => place p.line ++ "error: " ++ p.message) ++
    verdicts.map fun (line, v) =>
      place line ++ (if isMismatch v then "error" else "warning") ++ ": " ++ v.text

def errAll : List Text → Run Unit
  | [] => pure ()
  | t :: ts => do
    err t
    errAll ts

def badNames (r : Resolver) (nodes : List Node) : Run (List (Int × Verdict)) := do
  match r with
  | .loaded _ =>
    let verdicts ← orCrash .lookup (verifyTree r nodes)
    return verdicts.filter fun v => v.2.isProblem
  | _ =>
    err "Warning: name catalog unavailable, skipping name checks"
    return []

def runCheck (level : Option Text) (script : Path) (named : Option Path) (format : Text) :
    Run Unit := do
  let s ← loadSettings level named script
  let nodes ← readScript script
  let problems := Node.problemsAll nodes
  let verdicts ← badNames (← loadResolver s) nodes
  let lines := shownLines (← orCrash .file ((← get).files.read script))
  let clean := problems.isEmpty && verdicts.isEmpty
  if format = Text.of "vscode" then
    errAll (editorReport script lines problems verdicts)
    if clean then out "::notice: Validation successful\n"
  else
    errAll (humanReport script lines problems verdicts)
    if clean then out "OK: script is valid.\n"
  closeWith (!problems.isEmpty || verdicts.any fun v => isMismatch v.2)

def storeCatalog (c : Catalog Symbols) (s : Settings) : Run Unit := do
  let screen ← get
  match c.write s.abilities s.pets screen.files with
  | .ok () files => set { screen with files }
  | .error f files =>
    set { screen with files }
    crash (.file f)

def showCell (markup : Text) : Run Text :=
  match Markup.fault? markup with
  | some f => crash (.markup f)
  | none => pure (shown markup)

def runFetchNames (replies : List Download.Reply) (level : Option Text) (id secret : Text)
    (named : Option Path) : Run Unit := do
  let s ← loadSettings level named (← get).files.here
  let (result, session) := Download.run ⟨id, secret, s.region, s.locale⟩ replies
  logAll session.log
  match result with
  | .error e => if e.isReported then failWith e.message else crash (.download e)
  | .ok c =>
    storeCatalog c s
    let abilities ← showCell s.abilities.text
    let pets ← showCell s.pets.text
    out (drawTable "Name catalog" [
      ⟨"abilities", ofNat c.abilities.size, abilities⟩, ⟨"pets", ofNat c.pets.size, pets⟩])

structure Outcome where
  files : Files.Tree
  stdout : Text
  stderr : Text
  code : Nat
  crash : Option Crash

def Outcome.usage (files : Files.Tree) : Outcome :=
  ⟨files, [], [], 2, none⟩

def Outcome.ofRun (files : Files.Tree) (r : Run Unit) : Outcome :=
  match r ⟨files, [], [], none⟩ with
  | .ok () s => ⟨s.files, s.stdout, s.stderr, 0, none⟩
  | .error (.code n) s => ⟨s.files, s.stdout, s.stderr, n, none⟩
  | .error (.crash c) s => ⟨s.files, s.stdout, s.stderr, 1, some c⟩

def scriptPath? (files : Files.Tree) (word : Text) : Option Path :=
  let path := Path.ofText word
  match (splitOn '/' word).getLast? with
  | some last => if last ≠ [] ∧ last ≠ ['.'] ∧ files.isFile path then some path else none
  | none => none

def withScript (files : Files.Tree) (word : Text) (r : Path → Run Unit) : Outcome :=
  match scriptPath? files word with
  | some path => .ofRun files (r path)
  | none => .usage files

def Task.named : Task → List Path
  | .parse script _ => [Path.ofText script]
  | .describe script settings _ => settings.toList ++ [Path.ofText script]
  | .check script settings _ => settings.toList ++ [Path.ofText script]
  | .fetchNames _ _ settings => settings.toList

def Task.badPath? (t : Task) : Option Path :=
  t.named.find? fun p => p.parts.any (·.contains '\x00')

def runTask (files : Files.Tree) (replies : List Download.Reply) (level : Option Text) :
    Task → Outcome
  | .parse script json => withScript files script fun path => runParse path json
  | .describe script named names =>
    withScript files script fun path => runDescribe level path named names
  | .check script named format =>
    withScript files script fun path => runCheck level path named format
  | .fetchNames id secret named => .ofRun files (runFetchNames replies level id secret named)

def version : Text := "0.3.0"

def run (files : Files.Tree) (env : Environment) (replies : List Download.Reply)
    (words : List Text) : Outcome :=
  match Invocation.read env words with
  | none => .usage files
  | some .version => ⟨files, "petscript version " ++ version ++ "\n", [], 0, none⟩
  | some .help => ⟨files, [], [], 0, none⟩
  | some (.task level t) =>
    match t.badPath? with
    | some path => ⟨files, [], [], 1, some (.file ⟨.nullCharacter, path⟩)⟩
    | none => runTask files replies level t

end BattleScript.Command
