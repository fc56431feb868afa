import BattleScript.Script.Checked
import BattleScript.Script.Node

/-!
Reading a syntax tree back from its JSON form. Unknown fields are ignored and missing optional ones
take their defaults.
-/
namespace BattleScript.Script
open Text Checked

def tagged (key : Text) (trail : Trail) : Json → Checked (Text × List (Text × Json))
  | .object fields =>
    match Assoc.get? key fields with
    | none => issue trail .noTag
    | some (.string tag) => valid (tag, fields)
    | some _ => issue trail .unknownTag
  | _ => issue trail .notTagged

def loadTarget (trail : Trail) (fields : List (Text × Json)) : Checked Target :=
  Target.mk <$> required trail fields "target" (word Side.ofWord?)
    <*> withDefault trail fields "target_arg" none (nullable text)

def loadNamedId (trail : Trail) (fields : List (Text × Json)) (idKey : Text) : Checked NamedId :=
  (fun id name => NamedId.mk name id) <$> required trail fields idKey text
    <*> withDefault trail fields "provided_name" none (nullable text)

def loadSelectorFields (trail : Trail) (tag : Text) (fields : List (Text × Json)) : Checked Selector :=
  let inside := trail ++ [tag]
  let property := required inside fields "property" text
  if tag = Text.of "global" then
    Selector.global <$> required inside fields "subject" (word Subject.ofWord?)
  else if tag = Text.of "pet" then Selector.pet <$> loadTarget inside fields <*> property
  else if tag = Text.of "ability" then
    Selector.ability <$> loadTarget inside fields <*> loadNamedId inside fields "ability_id" <*> property
  else if tag = Text.of "aura" then
    Selector.aura <$> loadTarget inside fields <*> loadNamedId inside fields "aura_id" <*> property
  else issue trail .unknownTag

def loadSelector : Reader Selector := fun trail v =>
  match tagged "kind" trail v with
  | valid (tag, fields) => loadSelectorFields trail tag fields
  | invalid issues => invalid issues

theorem loadSelector_object {fields : List (Text × Json)} {tag : Text}
    (htag : Assoc.get? (Text.of "kind") fields = some (.string tag)) (trail : Trail) :
    loadSelector trail (.object fields) = loadSelectorFields trail tag fields := by
  simp only [loadSelector, tagged, htag]

def loadPredicate : Reader Predicate
  | trail, .object fields =>
    Predicate.mk <$> required trail fields "raw" text
      <*> required trail fields "selector_raw" text
      <*> withDefault trail fields "negated" false bool
      <*> withDefault trail fields "operator" none (nullable (word Operator.ofSymbol?))
      <*> withDefault trail fields "value" none (nullable text)
      <*> withDefault trail fields "selector" none (nullable loadSelector)
  | trail, _ => issue trail .notObject

def loadCondition : Reader Condition
  | trail, .object fields =>
    Condition.mk <$> required trail fields "raw" text
      <*> required trail fields "predicates" (list loadPredicate)
  | trail, _ => issue trail .notObject

def loadAction (trail : Trail) (fields : List (Text × Json)) : Checked Action :=
  Action.mk <$> required trail fields "action_kind" (word ActionKind.ofWord?)
    <*> required trail fields "raw_action" text
    <*> withDefault trail fields "args" none (nullable text)
    <*> withDefault trail fields "condition" none (nullable loadCondition)
    <*> withDefault trail fields "condition_raw" none (nullable text)
    <*> withDefault trail fields "indent" 0 natural
    <*> required trail fields "source_line" int

def loadBlock (trail : Trail) (fields : List (Text × Json)) (children : Checked (List Node)) :
    Checked Node :=
  (fun condition conditionRaw indent children line endLine =>
      Node.block ⟨condition, conditionRaw, indent, line, endLine⟩ children)
    <$> required trail fields "condition" loadCondition
    <*> required trail fields "condition_raw" text
    <*> withDefault trail fields "indent" 0 natural
    <*> children
    <*> required trail fields "source_line" int
    <*> withDefault trail fields "end_line" none (nullable int)

def loadTagged (trail : Trail) (tag : Text) (fields : List (Text × Json))
    (children : Checked (List Node)) : Checked Node :=
  let inside := trail ++ [tag]
  if tag = Text.of "separator" then Node.separator <$> withDefault inside fields "indent" 0 natural
  else if tag = Text.of "action" then Node.action <$> loadAction inside fields
  else if tag = Text.of "error" then
    Node.error <$> required inside fields "message" text <*> required inside fields "source_line" int
  else if tag = Text.of "if" then loadBlock inside fields children
  else issue trail .unknownTag

mutual

def loadNode (trail : Trail) : Json → Checked Node
  | .object fields =>
    match tagged "type" trail (.object fields) with
    | valid (tag, _) =>
      loadTagged trail tag fields (loadChildren (trail ++ [tag, "children"]) fields)
    | invalid issues => invalid issues
  | v =>
    match tagged "type" trail v with
    | valid _ => issue trail .notTagged
    | invalid issues => invalid issues

def loadChildren (trail : Trail) : List (Text × Json) → Checked (List Node)
  | [] => valid []
  | (key, v) :: fields =>
    if key = Text.of "children" then loadNodes trail v else loadChildren trail fields

def loadNodes (trail : Trail) : Json → Checked (List Node)
  | .array vs => loadItems trail 0 vs
  | _ => issue trail .notList

def loadItems (trail : Trail) (index : Nat) : List Json → Checked (List Node)
  | [] => valid []
  | v :: vs => List.cons <$> loadNode (trail ++ [ofNat index]) v <*> loadItems trail (index + 1) vs

end

theorem loadNode_object {fields : List (Text × Json)} {tag : Text}
    (htag : Assoc.get? (Text.of "type") fields = some (.string tag)) (trail : Trail) :
    loadNode trail (.object fields) =
      loadTagged trail tag fields (loadChildren (trail ++ [tag, "children"]) fields) := by
  simp only [loadNode, tagged, htag]

theorem loadChildren_eq (trail : Trail) (fields : List (Text × Json)) :
    loadChildren trail fields =
      match Assoc.get? (Text.of "children") fields with
      | some v => loadNodes trail v
      | none => valid [] := by
  induction fields with
  | nil => rw [loadChildren, Assoc.get?]
  | cons field fields ih =>
    obtain ⟨key, v⟩ := field
    rw [loadChildren, Assoc.get?]
    split
    · rfl
    · exact ih

def load (v : Json) : Checked (List Node) :=
  loadNodes [] v

end BattleScript.Script
