import BattleScript.Json.Value
import BattleScript.Script.Node

/-!
The JSON form of a syntax tree: every field is present, nodes are tagged by `type` and selectors by
`kind`.
-/
namespace BattleScript.Script
open Text

def optional (f : α → Json) : Option α → Json
  | none => .null
  | some a => f a

def Selector.toJson : Selector → Json
  | .global subject => .object [
      ("kind", .string "global"),
      ("subject", .string subject.word)]
  | .pet target property => .object [
      ("kind", .string "pet"),
      ("target", .string target.side.word),
      ("target_arg", optional .string target.pet),
      ("property", .string property)]
  | .ability target ref property => .object [
      ("kind", .string "ability"),
      ("target", .string target.side.word),
      ("target_arg", optional .string target.pet),
      ("ability_id", .string ref.id),
      ("provided_name", optional .string ref.name),
      ("property", .string property)]
  | .aura target ref property => .object [
      ("kind", .string "aura"),
      ("target", .string target.side.word),
      ("target_arg", optional .string target.pet),
      ("aura_id", .string ref.id),
      ("provided_name", optional .string ref.name),
      ("property", .string property)]

def Predicate.fields (p : Predicate) : List (Text × Json) := [
  ("raw", .string p.raw),
  ("selector_raw", .string p.selectorRaw),
  ("negated", .bool p.negated),
  ("operator", optional (fun op => .string op.symbol) p.operator),
  ("value", optional .string p.value),
  ("selector", optional Selector.toJson p.selector)]

def Predicate.toJson (p : Predicate) : Json :=
  .object p.fields

def Condition.fields (c : Condition) : List (Text × Json) := [
  ("raw", .string c.raw),
  ("predicates", .array (c.predicates.map Predicate.toJson))]

def Condition.toJson (c : Condition) : Json :=
  .object c.fields

def Action.toJson (a : Action) : Json := .object [
  ("type", .string "action"),
  ("action_kind", .string a.kind.word),
  ("raw_action", .string a.command),
  ("args", optional .string a.args),
  ("condition", optional Condition.toJson a.condition),
  ("condition_raw", optional .string a.conditionRaw),
  ("indent", .int a.indent),
  ("source_line", .int a.line)]

mutual

def Node.toJson : Node → Json
  | .separator indent => .object [("type", .string "separator"), ("indent", .int indent)]
  | .action a => a.toJson
  | .error message line =>
    .object [("type", .string "error"), ("message", .string message), ("source_line", .int line)]
  | .block head children => .object [
      ("type", .string "if"),
      ("condition", head.condition.toJson),
      ("condition_raw", .string head.conditionRaw),
      ("indent", .int head.indent),
      ("children", .array (Node.toJsonAll children)),
      ("source_line", .int head.line),
      ("end_line", optional .int head.endLine)]

def Node.toJsonAll : List Node → List Json
  | [] => []
  | n :: ns => n.toJson :: Node.toJsonAll ns

end

def dump (nodes : List Node) : Json :=
  .array (Node.toJsonAll nodes)

end BattleScript.Script
