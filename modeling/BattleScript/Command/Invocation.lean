import BattleScript.Command.Arguments
import BattleScript.Files.Path

/-!
What a command line asks for.
-/
namespace BattleScript.Command
open Text Files

inductive Task where
  | parse (script : Text) (json : Bool)
  | describe (script : Text) (settings : Option Path) (names : Bool)
  | check (script : Text) (settings : Option Path) (format : Text)
  | fetchNames (clientId clientSecret : Text) (settings : Option Path)
deriving DecidableEq, Repr

inductive Invocation where
  | version
  | help
  | task (level : Option Text) (t : Task)
deriving DecidableEq, Repr

abbrev Environment := List (Text × Text)

def variableNames : List Text :=
  ["PETSCRIPT_LOG_LEVEL", "OAUTH_CLIENT_ID", "OAUTH_CLIENT_SECRET"]

def lookupVariable (env : Environment) (name : Text) : Option Text :=
  match Assoc.get? name env with
  | some [] => none
  | v => v

def helpOption : OptionSpec := ⟨"--help", none, false⟩

def programOptions : List OptionSpec :=
  [⟨"--version", some 'v', false⟩, ⟨"--log-level", none, true⟩, helpOption]

def settingsOption : OptionSpec := ⟨"--config", some 'c', true⟩

def settingsPath (p : Parsed) : Option Path :=
  (p.value? "--config").map Path.ofText

structure CommandSpec where
  options : List OptionSpec
  task : Environment → Parsed → Option Task

def oneScript (p : Parsed) : Option Text :=
  match p.arguments with
  | [script] => some script
  | _ => none

def parseCommand : CommandSpec where
  options := [⟨"--json", none, false⟩, helpOption]
  task _ p := (oneScript p).map fun script => .parse script (p.has "--json")

def describeCommand : CommandSpec where
  options := [settingsOption, ⟨"--no-names", none, false⟩, helpOption]
  task _ p := (oneScript p).map fun script => .describe script (settingsPath p) (!p.has "--no-names")

def checkCommand : CommandSpec where
  options := [settingsOption, ⟨"--format", some 'f', true⟩, helpOption]
  task _ p := (oneScript p).map fun script =>
    .check script (settingsPath p) ((p.value? "--format").getD "human")

def fetchNamesCommand : CommandSpec where
  options := [⟨"--client-id", none, true⟩, ⟨"--client-secret", none, true⟩, settingsOption, helpOption]
  task env p :=
    match p.arguments, p.value? "--client-id" <|> lookupVariable env "OAUTH_CLIENT_ID",
      p.value? "--client-secret" <|> lookupVariable env "OAUTH_CLIENT_SECRET" with
    | [], some id, some secret => some (.fetchNames id secret (settingsPath p))
    | _, _, _ => none

def commands : List (Text × CommandSpec) := [
  ("parse", parseCommand),
  ("describe", describeCommand),
  ("check", checkCommand),
  ("fetch-names", fetchNamesCommand)]

def levelOf (env : Environment) (p : Parsed) : Option Text :=
  match p.value? "--log-level" with
  | some [] => none
  | some level => some level
  | none => lookupVariable env "PETSCRIPT_LOG_LEVEL"

def readCommand (env : Environment) (spec : CommandSpec) (words : List Text) : Option (Option Task) :=
  match readWords spec.options true none words with
  | none => none
  | some p => if p.has "--help" then some none else (spec.task env p).map some

/-- What a command line asks for; a wrong one asks for nothing. -/
def Invocation.read (env : Environment) (words : List Text) : Option Invocation :=
  match readWords programOptions false none words with
  | none => none
  | some p =>
    match p.options.find? fun o => o.1 = Text.of "--version" ∨ o.1 = Text.of "--help" with
    | some o => some (if o.1 = Text.of "--version" then .version else .help)
    | none =>
      match p.arguments with
      | [] => none
      | name :: rest =>
        match Assoc.get? name commands with
        | none => none
        | some spec =>
          (readCommand env spec rest).map fun
            | some t => .task (levelOf env p) t
            | none => .help

end BattleScript.Command
