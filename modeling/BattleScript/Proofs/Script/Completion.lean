import BattleScript.Script.Dump
import BattleScript.Script.Load

/-!
Completed documents. Completing keeps of every object the fields of its model, gives those that are left
out their defaults, and drops all others. A document is read as the completed one is.
-/
namespace BattleScript.Script
open Text Checked

/-- A field of a model: what it is when it is left out, and what completing does to its value. -/
structure FieldRule where
  key : Text
  default : Option Json
  inside : Json → Json

namespace FieldRule

def needed (key : Text) (inside : Json → Json := id) : FieldRule := ⟨key, none, inside⟩

def orElse (key : Text) (default : Json) (inside : Json → Json := id) : FieldRule :=
  ⟨key, some default, inside⟩

def orNull (key : Text) (inside : Json → Json := id) : FieldRule := orElse key .null inside

end FieldRule

open FieldRule

def FieldRule.value? (f : FieldRule) (fields : List (Text × Json)) : Option Json :=
  ((Assoc.get? f.key fields).map f.inside).or f.default

def fill (model : List FieldRule) (fields : List (Text × Json)) : List (Text × Json) :=
  model.filterMap fun f => (f.value? fields).map fun v => (f.key, v)

def fillTagged (key : Text) (model : Text → List FieldRule) (fields : List (Text × Json)) : Json :=
  match Assoc.get? key fields with
  | some (.string tag) => .object (fill (needed key :: model tag) fields)
  | _ => .object fields

def selectorModel (tag : Text) : List FieldRule :=
  if tag = Text.of "global" then [needed "subject"]
  else if tag = Text.of "pet" then [needed "target", orNull "target_arg", needed "property"]
  else if tag = Text.of "ability" then
    [needed "target", orNull "target_arg", needed "ability_id", orNull "provided_name", needed "property"]
  else if tag = Text.of "aura" then
    [needed "target", orNull "target_arg", needed "aura_id", orNull "provided_name", needed "property"]
  else []

def completeSelector : Json → Json
  | .object fields => fillTagged "kind" selectorModel fields
  | v => v

def predicateModel : List FieldRule :=
  [needed "raw", needed "selector_raw", orElse "negated" (.bool false), orNull "operator",
    orNull "value", orNull "selector" completeSelector]

def completePredicate : Json → Json
  | .object fields => .object (fill predicateModel fields)
  | v => v

def eachItem (f : Json → Json) : Json → Json
  | .array vs => .array (vs.map f)
  | v => v

def conditionModel : List FieldRule :=
  [needed "raw", needed "predicates" (eachItem completePredicate)]

def completeCondition : Json → Json
  | .object fields => .object (fill conditionModel fields)
  | v => v

def nodeModel (children : Json) (tag : Text) : List FieldRule :=
  if tag = Text.of "separator" then [orElse "indent" (.int 0)]
  else if tag = Text.of "action" then
    [needed "action_kind", needed "raw_action", orNull "args", orNull "condition" completeCondition,
      orNull "condition_raw", orElse "indent" (.int 0), needed "source_line"]
  else if tag = Text.of "error" then [needed "message", needed "source_line"]
  else if tag = Text.of "if" then
    [needed "condition" completeCondition, needed "condition_raw", orElse "indent" (.int 0),
      orElse "children" children fun _ => children, needed "source_line", orNull "end_line"]
  else []

mutual

def completeNode : Json → Json
  | .object fields => fillTagged "type" (nodeModel (completeChildren fields)) fields
  | v => v

def completeChildren : List (Text × Json) → Json
  | [] => .array []
  | (key, v) :: fields =>
    if key = Text.of "children" then completeNodes v else completeChildren fields

def completeNodes : Json → Json
  | .array vs => .array (completeItems vs)
  | v => v

def completeItems : List Json → List Json
  | [] => []
  | v :: vs => completeNode v :: completeItems vs

end

/-- A document with the defaults of its objects filled in and their unknown fields dropped. -/
def complete (v : Json) : Json :=
  completeNodes v

def FieldRule.SoleIn (f : FieldRule) (model : List FieldRule) : Prop :=
  model.filter (·.key = f.key) = [f]

theorem get?_fill_cons (key : Text) (g : FieldRule) (model : List FieldRule) (fields : List (Text × Json)) :
    Assoc.get? key (fill (g :: model) fields) =
      if g.key = key then (g.value? fields).or (Assoc.get? key (fill model fields))
      else Assoc.get? key (fill model fields) := by
  rw [fill, List.filterMap_cons]
  cases g.value? fields with
  | none => exact (ite_self _).symm
  | some v => rfl

theorem get?_fill_eq_none {model : List FieldRule} {key : Text} (h : model.filter (·.key = key) = [])
    (fields : List (Text × Json)) : Assoc.get? key (fill model fields) = none := by
  induction model with
  | nil => rfl
  | cons g model ih =>
    have hg : g.key ≠ key := by simpa using List.filter_eq_nil_iff.1 h g (List.mem_cons_self ..)
    rw [List.filter_cons_of_neg (by simpa using hg)] at h
    rw [get?_fill_cons, if_neg hg, ih h]

theorem FieldRule.SoleIn.get?_fill {f : FieldRule} {model : List FieldRule} (h : f.SoleIn model)
    (fields : List (Text × Json)) : Assoc.get? f.key (fill model fields) = f.value? fields := by
  unfold FieldRule.SoleIn at h
  induction model with
  | nil => cases h
  | cons g model ih =>
    rw [get?_fill_cons]
    by_cases hg : g.key = f.key
    · rw [List.filter_cons_of_pos (by simpa using hg)] at h
      obtain ⟨rfl, hnone⟩ := List.cons_eq_cons.1 h
      rw [if_pos rfl, get?_fill_eq_none hnone, Option.or_none]
    · rw [List.filter_cons_of_neg (by simpa using hg)] at h
      rw [if_neg hg, ih h]

/-- Completing makes no difference to a reader. -/
def Unseen (read : Reader α) (inside : Json → Json) : Prop :=
  ∀ trail v, read trail (inside v) = read trail v

namespace Unseen
variable {read : Reader α} {inside : Json → Json} {model : List FieldRule} {key : Text}

theorem required (h : Unseen read inside) (hmodel : (needed key inside).SoleIn model) (trail : Trail)
    (fields : List (Text × Json)) :
    Checked.required trail (fill model fields) key read = Checked.required trail fields key read := by
  have hget : Assoc.get? key (fill model fields) = ((Assoc.get? key fields).map inside).or none :=
    hmodel.get?_fill fields
  rw [Checked.required, Checked.required, hget]
  cases Assoc.get? key fields with
  | none => rfl
  | some v => exact h _ v

theorem withDefault (h : Unseen read inside) {d : Json} {a : α} {trail : Trail}
    (hmodel : (orElse key d inside).SoleIn model) (ha : read (trail ++ [key]) d = valid a)
    (fields : List (Text × Json)) :
    Checked.withDefault trail (fill model fields) key a read =
      Checked.withDefault trail fields key a read := by
  have hget : Assoc.get? key (fill model fields) =
      ((Assoc.get? key fields).map inside).or (some d) :=
    hmodel.get?_fill fields
  rw [Checked.withDefault, Checked.withDefault, hget]
  cases Assoc.get? key fields with
  | none => exact ha
  | some v => exact h _ v

theorem orNull (h : Unseen (Checked.nullable read) inside)
    (hmodel : (FieldRule.orNull key inside).SoleIn model) (trail : Trail) (fields : List (Text × Json)) :
    Checked.withDefault trail (fill model fields) key none (Checked.nullable read) =
      Checked.withDefault trail fields key none (Checked.nullable read) :=
  h.withDefault hmodel rfl fields

theorem nullable (h : Unseen read inside) (hnull : ∀ v, inside v = .null ↔ v = .null) :
    Unseen (Checked.nullable read) inside := by
  intro trail v
  by_cases hv : v = .null
  · rw [(hnull v).2 hv, hv]
  · have hinside : inside v ≠ .null := mt (hnull v).1 hv
    rw [Checked.nullable.eq_2 _ _ _ hinside, Checked.nullable.eq_2 _ _ _ hv, h]

theorem items (h : Unseen read inside) (trail : Trail) (index : Nat) (vs : List Json) :
    Checked.items read trail index (vs.map inside) = Checked.items read trail index vs := by
  induction vs generalizing index with
  | nil => rfl
  | cons v vs ih => rw [List.map_cons, Checked.items, h, ih, Checked.items]

theorem list (h : Unseen read inside) : Unseen (Checked.list read) (eachItem inside) := by
  intro trail v
  cases v with
  | array vs => exact h.items trail 0 vs
  | _ => rfl

theorem id : Unseen read id :=
  fun _ _ => rfl

end Unseen

theorem loadTarget_fill {model : List FieldRule} (hside : (needed "target").SoleIn model)
    (hpet : (orNull "target_arg").SoleIn model) (trail : Trail) (fields : List (Text × Json)) :
    loadTarget trail (fill model fields) = loadTarget trail fields := by
  rw [loadTarget, Unseen.id.required hside, Unseen.id.orNull hpet, loadTarget]

theorem loadNamedId_fill {model : List FieldRule} {idKey : Text} (hid : (needed idKey).SoleIn model)
    (hname : (orNull "provided_name").SoleIn model) (trail : Trail) (fields : List (Text × Json)) :
    loadNamedId trail (fill model fields) idKey = loadNamedId trail fields idKey := by
  rw [loadNamedId, Unseen.id.required hid, Unseen.id.orNull hname, loadNamedId]

theorem loadSelectorFields_fill (trail : Trail) (tag : Text) (fields : List (Text × Json)) :
    loadSelectorFields trail tag (fill (needed "kind" :: selectorModel tag) fields) =
      loadSelectorFields trail tag fields := by
  simp only [loadSelectorFields]
  refine ite_congr rfl (fun h => ?global) fun _ => ite_congr rfl (fun h => ?pet) fun _ =>
    ite_congr rfl (fun h => ?ability) fun _ => ite_congr rfl (fun h => ?aura) fun _ => rfl
  all_goals subst h
  case global => rw [Unseen.id.required]; rfl
  case pet => rw [loadTarget_fill, Unseen.id.required] <;> rfl
  case ability => rw [loadTarget_fill, loadNamedId_fill, Unseen.id.required] <;> rfl
  case aura => rw [loadTarget_fill, loadNamedId_fill, Unseen.id.required] <;> rfl

theorem fillTagged_cases (key : Text) (model : Text → List FieldRule) (fields : List (Text × Json)) :
    (∃ tag, Assoc.get? key fields = some (.string tag) ∧
        fillTagged key model fields = .object (fill (needed key :: model tag) fields)) ∨
      (∀ tag, Assoc.get? key fields ≠ some (.string tag)) ∧
        fillTagged key model fields = .object fields := by
  unfold fillTagged
  split
  · next tag htag => exact .inl ⟨tag, htag, rfl⟩
  · next hother => exact .inr ⟨hother, rfl⟩

theorem get?_fill_tag {key : Text} {model : List FieldRule} {fields : List (Text × Json)} {tag : Text}
    (htag : Assoc.get? key fields = some (.string tag)) :
    Assoc.get? key (fill (needed key :: model) fields) = some (.string tag) := by
  rw [get?_fill_cons]
  simp only [needed, FieldRule.value?, htag, if_true, id, Option.map_some, Option.some_or]

theorem unseen_selector : Unseen loadSelector completeSelector := by
  intro trail v
  cases v with
  | object fields =>
    rcases fillTagged_cases "kind" selectorModel fields with ⟨tag, htag, hfill⟩ | ⟨-, hfill⟩
    · rw [completeSelector, hfill, loadSelector_object (get?_fill_tag htag), loadSelector_object htag,
        loadSelectorFields_fill]
    · rw [completeSelector, hfill]
  | _ => rfl

theorem completeSelector_eq_null (v : Json) : completeSelector v = .null ↔ v = .null := by
  cases v with
  | object fields =>
    rcases fillTagged_cases "kind" selectorModel fields with ⟨tag, -, hfill⟩ | ⟨-, hfill⟩ <;>
      simp only [completeSelector, hfill, reduceCtorEq]
  | _ => simp only [completeSelector]

theorem unseen_predicate : Unseen loadPredicate completePredicate := by
  intro trail v
  cases v with
  | object fields =>
    have hselector := unseen_selector.nullable completeSelector_eq_null
    rw [completePredicate, loadPredicate, Unseen.id.required, Unseen.id.required,
      Unseen.id.withDefault, Unseen.id.orNull, Unseen.id.orNull, hselector.orNull,
      loadPredicate] <;> rfl
  | _ => rfl

theorem unseen_condition : Unseen loadCondition completeCondition := by
  intro trail v
  cases v with
  | object fields =>
    rw [completeCondition, loadCondition, Unseen.id.required, unseen_predicate.list.required,
      loadCondition] <;> rfl
  | _ => rfl

theorem completeCondition_eq_null (v : Json) : completeCondition v = .null ↔ v = .null := by
  cases v <;> simp only [completeCondition, reduceCtorEq]

theorem loadAction_fill (trail : Trail) (children : Json) (fields : List (Text × Json)) :
    loadAction trail (fill (needed "type" :: nodeModel children "action") fields) =
      loadAction trail fields := by
  have hcondition := unseen_condition.nullable completeCondition_eq_null
  rw [loadAction, Unseen.id.required, Unseen.id.required, Unseen.id.orNull, hcondition.orNull,
    Unseen.id.orNull, Unseen.id.withDefault, Unseen.id.required, loadAction] <;> rfl

theorem loadBlock_fill (trail : Trail) (children : Json) (fields : List (Text × Json))
    (loaded : Checked (List Node)) :
    loadBlock trail (fill (needed "type" :: nodeModel children "if") fields) loaded =
      loadBlock trail fields loaded := by
  rw [loadBlock, unseen_condition.required, Unseen.id.required, Unseen.id.withDefault,
    Unseen.id.required, Unseen.id.orNull, loadBlock] <;> rfl

theorem loadTagged_fill (trail : Trail) (tag : Text) (children : Json) (fields : List (Text × Json))
    (loaded : Checked (List Node)) :
    loadTagged trail tag (fill (needed "type" :: nodeModel children tag) fields) loaded =
      loadTagged trail tag fields loaded := by
  simp only [loadTagged]
  refine ite_congr rfl (fun h => ?separator) fun _ => ite_congr rfl (fun h => ?action) fun _ =>
    ite_congr rfl (fun h => ?error) fun _ => ite_congr rfl (fun h => ?block) fun _ => rfl
  all_goals subst h
  case separator => rw [Unseen.id.withDefault] <;> rfl
  case action => rw [loadAction_fill]
  case error => rw [Unseen.id.required, Unseen.id.required] <;> rfl
  case block => rw [loadBlock_fill]

theorem loadChildren_fill (trail : Trail) (children : Json) (fields : List (Text × Json)) :
    loadChildren trail (fill (needed "type" :: nodeModel children "if") fields) =
      loadNodes trail children := by
  have hsole : (orElse "children" children fun _ => children).SoleIn
      (needed "type" :: nodeModel children "if") := rfl
  have hget : Assoc.get? (Text.of "children") (fill (needed "type" :: nodeModel children "if") fields) =
      some children := by
    refine (hsole.get?_fill fields).trans ?_
    rw [FieldRule.value?]
    cases Assoc.get? _ fields <;> rfl
  rw [loadChildren_eq, hget]

mutual

theorem unseen_node (trail : Trail) : ∀ v : Json, loadNode trail (completeNode v) = loadNode trail v
  | .object fields => by
    rw [completeNode]
    rcases fillTagged_cases "type" (nodeModel (completeChildren fields)) fields with
      ⟨tag, htag, hfill⟩ | ⟨-, hfill⟩
    · have hinside := loadNodes_completeChildren (trail ++ [tag, "children"]) fields
      rw [hfill, loadNode_object (get?_fill_tag htag), loadNode_object htag, loadTagged_fill]
      by_cases hblock : tag = Text.of "if"
      · subst hblock
        rw [loadChildren_fill, hinside]
      · simp only [loadTagged, hblock, if_false]
    · rw [hfill]
  | .null | .bool _ | .int _ | .float _ | .string _ | .array _ => rfl

theorem loadNodes_completeChildren (trail : Trail) : ∀ fields : List (Text × Json),
    loadNodes trail (completeChildren fields) = loadChildren trail fields
  | [] => by rw [completeChildren, loadNodes, loadItems, loadChildren]
  | (key, v) :: fields => by
    rw [completeChildren, loadChildren]
    split
    · exact loadNodes_completeNodes trail v
    · exact loadNodes_completeChildren trail fields

theorem loadNodes_completeNodes (trail : Trail) : ∀ v : Json,
    loadNodes trail (completeNodes v) = loadNodes trail v
  | .array vs => by rw [completeNodes, loadNodes, loadNodes, loadItems_completeItems trail 0 vs]
  | .null | .bool _ | .int _ | .float _ | .string _ | .object _ => rfl

theorem loadItems_completeItems (trail : Trail) (index : Nat) : ∀ vs : List Json,
    loadItems trail index (completeItems vs) = loadItems trail index vs
  | [] => by rw [completeItems]
  | v :: vs => by
    rw [completeItems, loadItems, unseen_node _ v, loadItems_completeItems trail (index + 1) vs,
      loadItems]

end

theorem completeSelector_toJson (selector : Selector) :
    completeSelector selector.toJson = selector.toJson := by
  cases selector <;> rfl

theorem completePredicate_toJson (p : Predicate) : completePredicate p.toJson = p.toJson := by
  have hselector : completeSelector (optional Selector.toJson p.selector) =
      optional Selector.toJson p.selector := by
    cases p.selector with
    | none => rfl
    | some selector => exact completeSelector_toJson selector
  have hfields : fill predicateModel p.fields = p.fields.dropLast ++
      [(Text.of "selector", completeSelector (optional Selector.toJson p.selector))] := rfl
  rw [Predicate.toJson, completePredicate, hfields, hselector]
  rfl

theorem completeCondition_toJson (c : Condition) : completeCondition c.toJson = c.toJson := by
  have hfields : fill conditionModel c.fields =
      [(Text.of "raw", .string c.raw),
        (Text.of "predicates", .array ((c.predicates.map Predicate.toJson).map completePredicate))] := rfl
  have hpredicates : (c.predicates.map Predicate.toJson).map completePredicate =
      c.predicates.map Predicate.toJson := by
    rw [List.map_map]
    exact List.map_congr_left fun p _ => completePredicate_toJson p
  rw [Condition.toJson, completeCondition, hfields, hpredicates]
  rfl

theorem completeNode_action (a : Action) : completeNode a.toJson = a.toJson := by
  have hcondition : completeCondition (optional Condition.toJson a.condition) =
      optional Condition.toJson a.condition := by
    cases a.condition with
    | none => rfl
    | some c => exact completeCondition_toJson c
  have hfilled : completeNode a.toJson = .object [
      (Text.of "type", .string "action"),
      (Text.of "action_kind", .string a.kind.word),
      (Text.of "raw_action", .string a.command),
      (Text.of "args", optional .string a.args),
      (Text.of "condition", completeCondition (optional Condition.toJson a.condition)),
      (Text.of "condition_raw", optional .string a.conditionRaw),
      (Text.of "indent", .int a.indent),
      (Text.of "source_line", .int a.line)] := rfl
  rw [hfilled, hcondition]
  rfl

mutual

theorem completeNode_toJson : ∀ n : Node, completeNode n.toJson = n.toJson
  | .separator indent => rfl
  | .action a => completeNode_action a
  | .error message line => rfl
  | .block head children => by
    have hfilled : completeNode (Node.block head children).toJson = .object [
        (Text.of "type", .string "if"),
        (Text.of "condition", completeCondition head.condition.toJson),
        (Text.of "condition_raw", .string head.conditionRaw),
        (Text.of "indent", .int head.indent),
        (Text.of "children", .array (completeItems (Node.toJsonAll children))),
        (Text.of "source_line", .int head.line),
        (Text.of "end_line", optional .int head.endLine)] := rfl
    rw [hfilled, completeCondition_toJson, completeItems_toJsonAll, Node.toJson]

theorem completeItems_toJsonAll : ∀ ns : List Node,
    completeItems (Node.toJsonAll ns) = Node.toJsonAll ns
  | [] => rfl
  | n :: ns => by
    rw [Node.toJsonAll, completeItems, completeNode_toJson n, completeItems_toJsonAll ns]

end

theorem load_complete (v : Json) : load (complete v) = load v :=
  loadNodes_completeNodes [] v

theorem complete_dump (nodes : List Node) : complete (dump nodes) = dump nodes := by
  rw [complete, dump, completeNodes, completeItems_toJsonAll]

end BattleScript.Script
