import BattleScript.Assoc
import BattleScript.Command.Arguments
import BattleScript.Command.Inputs
import BattleScript.Command.Invocation
import BattleScript.Command.Markup
import BattleScript.Command.Outline
import BattleScript.Command.Run
import BattleScript.Command.Styling
import BattleScript.Command.Table
import BattleScript.Decimal.Binary64
import BattleScript.Decimal.Layout
import BattleScript.Decimal.Shortest
import BattleScript.Diagnostic
import BattleScript.Download
import BattleScript.Download.Address
import BattleScript.Download.Hostname
import BattleScript.English.Describe
import BattleScript.English.Phrase
import BattleScript.Files.Path
import BattleScript.Files.Tree
import BattleScript.Json.Label
import BattleScript.Json.Reader
import BattleScript.Json.Value
import BattleScript.Json.Writer
import BattleScript.Log
import BattleScript.Main
import BattleScript.Names.Catalog
import BattleScript.Names.Deferred
import BattleScript.Names.Resolver
import BattleScript.Names.Verdict
import BattleScript.Script.Action
import BattleScript.Script.Block
import BattleScript.Script.Checked
import BattleScript.Script.Condition
import BattleScript.Script.Dump
import BattleScript.Script.File
import BattleScript.Script.Line
import BattleScript.Script.Load
import BattleScript.Script.Node
import BattleScript.Script.Selector
import BattleScript.Settings
import BattleScript.Text.Base64
import BattleScript.Text.Basic
import BattleScript.Text.Blank
import BattleScript.Text.Digit
import BattleScript.Text.Lower
import BattleScript.Text.Newline
import BattleScript.Text.Pictograph
import BattleScript.Text.Printable
import BattleScript.Text.Quoted
import BattleScript.Text.Upper
import BattleScript.Text.Utf8
import BattleScript.Text.Wide
import BattleScript.Text.Width
import BattleScript.Text.Word
import BattleScript.Toml.Document
import BattleScript.Toml.Scalar
import BattleScript.Toml.Value
import BattleScript.Proofs.Script.Depth
import BattleScript.Proofs.Script.Preorder
import BattleScript.Proofs.Script.Composition
import BattleScript.Proofs.Script.Accounting
import BattleScript.Proofs.Names.LineVerdicts
import BattleScript.Proofs.Text.Trim
import BattleScript.Proofs.Script.Brackets
import BattleScript.Proofs.Script.Layout
import BattleScript.Proofs.Script.Rendering
import BattleScript.Proofs.Script.Reload
import BattleScript.Proofs.Text.Utf8
import BattleScript.Proofs.Json.Strings
import BattleScript.Proofs.Files.Writing
import BattleScript.Proofs.Names.CatalogFiles
import BattleScript.Proofs.English.Notes
import BattleScript.Proofs.Names.OneLoad
import BattleScript.Proofs.Json.Digits
import BattleScript.Proofs.Names.SettledLoading
import BattleScript.Proofs.Text.Newline
import BattleScript.Proofs.Command.ShownLines
import BattleScript.Proofs.Text.Occurrence
import BattleScript.Proofs.Command.Styling
import BattleScript.Proofs.Names.Growth
import BattleScript.Proofs.Script.Comparison
import BattleScript.Proofs.Command.CheckOutcome
import BattleScript.Proofs.Script.Conjunction
import BattleScript.Proofs.Script.FirstBracket
import BattleScript.Proofs.Script.SelectorShapes
import BattleScript.Proofs.Script.SelectorText
import BattleScript.Proofs.Script.FileEncoding
import BattleScript.Proofs.English.Negation
import BattleScript.Proofs.English.RoundBadge
import BattleScript.Proofs.Command.OutlineWalk
import BattleScript.Proofs.Names.FirstFault
import BattleScript.Proofs.Names.AcceptedNames
import BattleScript.Proofs.Names.LifeCycle
import BattleScript.Proofs.Download.Replies
import BattleScript.Proofs.Diagnostic.Snippet
import BattleScript.Proofs.Names.AuraIds
import BattleScript.Proofs.Settings.Loading
import BattleScript.Proofs.Files.NewDirectories
import BattleScript.Proofs.Names.FailedWrite
import BattleScript.Proofs.Script.Arguments
import BattleScript.Proofs.Names.MemberVerdicts
