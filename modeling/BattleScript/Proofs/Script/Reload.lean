import BattleScript.Proofs.Script.Completion
import BattleScript.Script.Block

/-!
Trees and their JSON form. Each reader of a field undoes the writer of that field, at any place of a
document, and readers put together from such readers undo the writers put together in the same way. So
every tree is read back from its JSON form.
-/
namespace BattleScript.Script
open Text Checked

/-- What `write` has written, `read` accepts and turns back, wherever it stands. -/
def Undoes (read : Reader α) (write : α → Json) : Prop :=
  ∀ trail a, read trail (write a) = valid a

@[simp] theorem Checked.map_valid (f : α → β) (a : α) : f <$> valid a = valid (f a) := rfl

@[simp] theorem Checked.seq_valid (f : α → β) (a : α) : valid f <*> valid a = valid (f a) := rfl

namespace Undoes
variable {read : Reader α} {write : α → Json}

theorem required (h : Undoes read write) {fields : List (Text × Json)} {key : Text} {a : α}
    (hget : Assoc.get? key fields = some (write a)) (trail : Trail) :
    Checked.required trail fields key read = valid a := by
  rw [Checked.required, hget]
  exact h _ a

theorem withDefault (h : Undoes read write) {fields : List (Text × Json)} {key : Text} {a : α}
    (hget : Assoc.get? key fields = some (write a)) (default : α) (trail : Trail) :
    Checked.withDefault trail fields key default read = valid a := by
  rw [Checked.withDefault, hget]
  exact h _ a

theorem nullable (h : Undoes read write) (hnull : ∀ a, write a ≠ .null) :
    Undoes (Checked.nullable read) (optional write) := by
  intro trail a
  cases a with
  | none => rfl
  | some a =>
    rw [optional, Checked.nullable, h]
    · rfl
    · exact hnull a

theorem items (h : Undoes read write) (trail : Trail) (index : Nat) (as : List α) :
    Checked.items read trail index (as.map write) = valid as := by
  induction as generalizing index with
  | nil => rfl
  | cons a as ih => rw [List.map_cons, Checked.items, h, ih, map_valid, seq_valid]

theorem list (h : Undoes read write) :
    Undoes (Checked.list read) (fun as => .array (as.map write)) :=
  fun trail as => h.items trail 0 as

theorem text : Undoes Checked.text .string :=
  fun _ _ => rfl

theorem int : Undoes Checked.int .int :=
  fun _ _ => rfl

theorem natural : Undoes Checked.natural (fun n => .int n) := by
  intro trail n
  have hn : (0 : Int) ≤ n := Int.natCast_nonneg n
  simp only [Checked.natural, Checked.int, hn, if_true, Int.toNat_natCast]

theorem bool : Undoes Checked.bool .bool :=
  fun _ _ => rfl

theorem word {ofWord? : Text → Option α} {wordOf : α → Text} (h : ∀ a, ofWord? (wordOf a) = some a) :
    Undoes (Checked.word ofWord?) (fun a => .string (wordOf a)) := by
  intro trail a
  rw [Checked.word, h]

end Undoes

theorem undoes_side : Undoes (word Side.ofWord?) (fun side => .string side.word) :=
  .word fun side => by cases side <;> decide

theorem undoes_subject : Undoes (word Subject.ofWord?) (fun subject => .string subject.word) :=
  .word fun subject => by cases subject <;> decide

theorem undoes_operator : Undoes (word Operator.ofSymbol?) (fun op => .string op.symbol) :=
  .word fun op => by cases op <;> decide

theorem undoes_actionKind : Undoes (word ActionKind.ofWord?) (fun kind => .string kind.word) :=
  .word fun kind => by cases kind <;> decide

theorem undoes_optionalText : Undoes (nullable text) (optional .string) :=
  Undoes.text.nullable nofun

theorem loadTarget_eq {fields : List (Text × Json)} {target : Target}
    (hside : Assoc.get? (Text.of "target") fields = some (.string target.side.word))
    (hpet : Assoc.get? (Text.of "target_arg") fields = some (optional .string target.pet)) (trail : Trail) :
    loadTarget trail fields = valid target := by
  rw [loadTarget, undoes_side.required hside, undoes_optionalText.withDefault hpet]
  rfl

theorem loadNamedId_eq {fields : List (Text × Json)} {idKey : Text} {ref : NamedId}
    (hid : Assoc.get? idKey fields = some (.string ref.id))
    (hname : Assoc.get? (Text.of "provided_name") fields = some (optional .string ref.name)) (trail : Trail) :
    loadNamedId trail fields idKey = valid ref := by
  rw [loadNamedId, Undoes.text.required hid, undoes_optionalText.withDefault hname]
  rfl

theorem undoes_selector : Undoes loadSelector Selector.toJson := by
  intro trail selector
  cases selector with
  | global subject =>
    rw [Selector.toJson, loadSelector_object rfl, loadSelectorFields, if_pos rfl,
      undoes_subject.required rfl, map_valid]
  | pet target property =>
    rw [Selector.toJson, loadSelector_object rfl, loadSelectorFields, if_neg (by decide), if_pos rfl,
      loadTarget_eq rfl rfl, Undoes.text.required rfl, map_valid, seq_valid]
  | ability target ref property =>
    rw [Selector.toJson, loadSelector_object rfl, loadSelectorFields, if_neg (by decide),
      if_neg (by decide), if_pos rfl, loadTarget_eq rfl rfl, loadNamedId_eq rfl rfl,
      Undoes.text.required rfl, map_valid, seq_valid, seq_valid]
  | aura target ref property =>
    rw [Selector.toJson, loadSelector_object rfl, loadSelectorFields, if_neg (by decide),
      if_neg (by decide), if_neg (by decide), if_pos rfl, loadTarget_eq rfl rfl, loadNamedId_eq rfl rfl,
      Undoes.text.required rfl, map_valid, seq_valid, seq_valid]

theorem undoes_predicate : Undoes loadPredicate Predicate.toJson := by
  intro trail p
  have hselector : Undoes (nullable loadSelector) (optional Selector.toJson) :=
    undoes_selector.nullable fun selector => by cases selector <;> exact nofun
  have hoperator : Undoes (nullable (word Operator.ofSymbol?)) (optional fun op => .string op.symbol) :=
    undoes_operator.nullable nofun
  rw [Predicate.toJson, loadPredicate, Undoes.text.required (a := p.raw) rfl,
    Undoes.text.required (a := p.selectorRaw) rfl, Undoes.bool.withDefault (a := p.negated) rfl,
    hoperator.withDefault (a := p.operator) rfl, undoes_optionalText.withDefault (a := p.value) rfl,
    hselector.withDefault (a := p.selector) rfl]
  rfl

theorem undoes_condition : Undoes loadCondition Condition.toJson := by
  intro trail c
  rw [Condition.toJson, loadCondition, Undoes.text.required (a := c.raw) rfl,
    undoes_predicate.list.required (a := c.predicates) rfl]
  rfl

theorem loadAction_toJson (a : Action) (trail : Trail) :
    ∃ fields, a.toJson = .object fields ∧ Assoc.get? (Text.of "type") fields = some (.string "action") ∧
      loadAction trail fields = valid a := by
  have hcondition : Undoes (nullable loadCondition) (optional Condition.toJson) :=
    undoes_condition.nullable nofun
  refine ⟨_, rfl, rfl, ?_⟩
  rw [loadAction, undoes_actionKind.required (a := a.kind) rfl,
    Undoes.text.required (a := a.command) rfl, undoes_optionalText.withDefault (a := a.args) rfl,
    hcondition.withDefault (a := a.condition) rfl,
    undoes_optionalText.withDefault (a := a.conditionRaw) rfl,
    Undoes.natural.withDefault (a := a.indent) rfl, Undoes.int.required (a := a.line) rfl]
  rfl

theorem loadChildren_array {fields : List (Text × Json)} {vs : List Json}
    (hget : Assoc.get? (Text.of "children") fields = some (.array vs)) (trail : Trail) :
    loadChildren trail fields = loadItems trail 0 vs := by
  rw [loadChildren_eq, hget]
  exact loadNodes.eq_1 trail vs

mutual

theorem loadNode_toJson (trail : Trail) : ∀ n : Node, loadNode trail n.toJson = valid n
  | .separator indent => by
    rw [Node.toJson, loadNode_object rfl, loadTagged, if_pos rfl, Undoes.natural.withDefault rfl,
      map_valid]
  | .action a => by
    obtain ⟨fields, hfields, htag, hload⟩ := loadAction_toJson a (trail ++ [Text.of "action"])
    rw [Node.toJson, hfields, loadNode_object htag, loadTagged, if_neg (by decide), if_pos rfl, hload,
      map_valid]
  | .error message line => by
    rw [Node.toJson, loadNode_object rfl, loadTagged, if_neg (by decide), if_neg (by decide), if_pos rfl,
      Undoes.text.required rfl, Undoes.int.required rfl, map_valid, seq_valid]
  | .block head children => by
    have hend : Undoes (nullable int) (optional .int) := Undoes.int.nullable nofun
    rw [Node.toJson, loadNode_object rfl, loadTagged, if_neg (by decide), if_neg (by decide),
      if_neg (by decide), if_pos rfl, loadBlock, undoes_condition.required rfl,
      Undoes.text.required rfl, Undoes.natural.withDefault rfl,
      loadChildren_array rfl, loadItems_toJsonAll, Undoes.int.required rfl, hend.withDefault rfl]
    rfl

theorem loadItems_toJsonAll (trail : Trail) (index : Nat) :
    ∀ ns : List Node, loadItems trail index (Node.toJsonAll ns) = valid ns
  | [] => by rw [Node.toJsonAll, loadItems]
  | n :: ns => by
    rw [Node.toJsonAll, loadItems, loadNode_toJson, loadItems_toJsonAll, map_valid, seq_valid]

end

theorem load_dump (nodes : List Node) : load (dump nodes) = valid nodes := by
  rw [load, dump, loadNodes]
  exact loadItems_toJsonAll [] 0 nodes

/-- Every tree is read back from its JSON form, and so is the tree of every script. Any document is read
as it is after its defaults are filled in and its unknown fields dropped. If it is accepted, that is
settled: the JSON form of its tree is complete, and is read as the same tree. -/
theorem load_dump_settles :
    (∀ nodes, load (dump nodes) = valid nodes) ∧
      (∀ lines, load (dump (parseLines lines)) = valid (parseLines lines)) ∧
      (∀ v, load (complete v) = load v) ∧
      ∀ v nodes, load v = valid nodes →
        load (dump nodes) = valid nodes ∧ complete (dump nodes) = dump nodes :=
  ⟨load_dump, fun lines => load_dump (parseLines lines), load_complete,
    fun _ nodes _ => ⟨load_dump nodes, complete_dump nodes⟩⟩

theorem load_dump_settles_block :
    let v : Json := .array [.object [
      ("type", .string "if"), ("note", .null), ("condition_raw", .string "x"),
      ("condition", .object [("predicates", .array []), ("raw", .string "x")]),
      ("source_line", .string " -07 ")]]
    let nodes := [Node.block ⟨⟨"x", []⟩, "x", 0, -7, none⟩ []]
    load v = valid nodes ∧ load (dump nodes) = valid nodes ∧ complete (dump nodes) = dump nodes := by
  intro v nodes
  have hload : load v = valid nodes := rfl
  exact ⟨hload, load_dump_settles.2.2.2 v nodes hload⟩

end BattleScript.Script
