import BattleScript.Names.Verdict

/-!
The references that a tree makes, as lists told from the tree alone. The check of names goes through the
tree by itself; checking a selector, a condition, an action or a tree comes to checking the references in
its list one after another, up to the first that cannot be looked up.
-/
namespace BattleScript.Names
open Text Script

/-- What kind of thing a script names, and how it is written there. -/
structure Reference where
  kind : NameKind
  arg : Text
deriving DecidableEq, Repr

def targetReferences (t : Target) : List Reference :=
  match t.pet with
  | some arg => if arg = [] then [] else [⟨.pet, arg⟩]
  | none => []

def selectorReferences : Option Selector → List Reference
  | none => []
  | some (.global _) => []
  | some (.pet target _) => targetReferences target
  | some (.ability target ref _) => targetReferences target ++ [⟨.ability, ref.text⟩]
  | some (.aura target ref _) => targetReferences target ++ [⟨.aura, ref.text⟩]

def conditionReferences (c : Condition) : List Reference :=
  c.predicates.flatMap fun p => selectorReferences p.selector

def argumentReferences (a : Action) : List Reference :=
  match a.kind, a.args with
  | .ability, some arg => [⟨.ability, arg⟩]
  | .change, some arg => if arg = Text.of "next" then [] else [⟨.pet, arg⟩]
  | _, _ => []

def actionReferences (a : Action) : List Reference :=
  argumentReferences a ++ a.condition.elim [] conditionReferences

mutual

/-- The references of a node with the line of the node that holds them, depth first. -/
def nodeReferences : Node → List (Int × Reference)
  | .action a => (actionReferences a).map fun ref => (a.line, ref)
  | .block head children =>
    (conditionReferences head.condition).map (fun ref => (head.line, ref)) ++ treeReferences children
  | _ => []

def treeReferences : List Node → List (Int × Reference)
  | [] => []
  | n :: ns => nodeReferences n ++ treeReferences ns

end

def verifyAll (r : Resolver) : List Reference → Except LookupError (List Verdict)
  | [] => .ok []
  | ref :: refs => do
    let v ← verify r ref.kind ref.arg
    let vs ← verifyAll r refs
    return v.toList ++ vs

def verifyLines (r : Resolver) : List (Int × Reference) → Except LookupError (List (Int × Verdict))
  | [] => .ok []
  | (line, ref) :: refs => do
    let v ← verify r ref.kind ref.arg
    let vs ← verifyLines r refs
    return v.toList.map (fun v => (line, v)) ++ vs

theorem bind_eq_ok_iff {ε α β : Type} {x : Except ε α} {f : α → Except ε β} {b : β} :
    (x >>= f) = .ok b ↔ ∃ a, x = .ok a ∧ f a = .ok b := by
  cases x with
  | error e => exact ⟨fun h => (nomatch h), fun ⟨_, h, _⟩ => (nomatch h)⟩
  | ok a => exact ⟨fun h => ⟨a, rfl, h⟩, fun ⟨_, ha, h⟩ => by cases ha; exact h⟩

theorem verifyAll_cons_eq_ok_iff {r : Resolver} {ref : Reference} {refs : List Reference}
    {vs : List Verdict} : verifyAll r (ref :: refs) = .ok vs ↔
      ∃ v rest, verify r ref.kind ref.arg = .ok v ∧ verifyAll r refs = .ok rest ∧
        vs = v.toList ++ rest := by
  simp only [verifyAll, bind_eq_ok_iff, pure, Except.pure, Except.ok.injEq, eq_comm (a := vs),
    exists_and_left]

theorem verifyAll_singleton_eq_ok_iff {r : Resolver} {ref : Reference} {vs : List Verdict} :
    verifyAll r [ref] = .ok vs ↔ ∃ v, verify r ref.kind ref.arg = .ok v ∧ vs = v.toList := by
  rw [verifyAll_cons_eq_ok_iff]
  constructor
  · rintro ⟨v, _, hv, ⟨⟩, rfl⟩
    exact ⟨v, hv, List.append_nil _⟩
  · rintro ⟨v, hv, rfl⟩
    exact ⟨v, [], hv, rfl, (List.append_nil _).symm⟩

theorem verifyLines_cons_eq_ok_iff {r : Resolver} {line : Int} {ref : Reference}
    {refs : List (Int × Reference)} {vs : List (Int × Verdict)} :
    verifyLines r ((line, ref) :: refs) = .ok vs ↔
      ∃ v rest, verify r ref.kind ref.arg = .ok v ∧ verifyLines r refs = .ok rest ∧
        vs = v.toList.map (fun v => (line, v)) ++ rest := by
  simp only [verifyLines, bind_eq_ok_iff, pure, Except.pure, Except.ok.injEq, eq_comm (a := vs),
    exists_and_left]

theorem verifyAll_singleton (r : Resolver) (kind : NameKind) (arg : Text) :
    verifyAll r [⟨kind, arg⟩] = do return (← verify r kind arg).toList := by
  rw [verifyAll, verifyAll]
  cases verify r kind arg with
  | error e => rfl
  | ok v => exact congrArg Except.ok (List.append_nil _)

theorem verifyAll_append (r : Resolver) (as bs : List Reference) :
    verifyAll r (as ++ bs) = do
      let us ← verifyAll r as
      let ws ← verifyAll r bs
      return us ++ ws := by
  induction as with
  | nil =>
    simp only [List.nil_append, verifyAll]
    cases verifyAll r bs <;> rfl
  | cons a as ih =>
    simp only [List.cons_append, verifyAll, ih]
    cases verify r a.kind a.arg with
    | error e => rfl
    | ok v =>
      cases verifyAll r as with
      | error e => rfl
      | ok us =>
        cases verifyAll r bs with
        | error e => rfl
        | ok ws => exact congrArg Except.ok (List.append_assoc _ _ _).symm

theorem verifyAll_append_eq_ok_iff {r : Resolver} {as bs : List Reference} {vs : List Verdict} :
    verifyAll r (as ++ bs) = .ok vs ↔
      ∃ us ws, verifyAll r as = .ok us ∧ verifyAll r bs = .ok ws ∧ vs = us ++ ws := by
  rw [verifyAll_append]
  simp only [bind_eq_ok_iff, pure, Except.pure, Except.ok.injEq, eq_comm (a := vs), exists_and_left]

theorem verifyLines_append (r : Resolver) (as bs : List (Int × Reference)) :
    verifyLines r (as ++ bs) = do
      let vs ← verifyLines r as
      let ws ← verifyLines r bs
      return vs ++ ws := by
  induction as with
  | nil =>
    simp only [List.nil_append, verifyLines]
    cases verifyLines r bs <;> rfl
  | cons a as ih =>
    obtain ⟨line, ref⟩ := a
    simp only [List.cons_append, verifyLines, ih]
    cases verify r ref.kind ref.arg with
    | error e => rfl
    | ok v =>
      cases verifyLines r as with
      | error e => rfl
      | ok vs =>
        cases verifyLines r bs with
        | error e => rfl
        | ok ws => exact congrArg Except.ok (List.append_assoc _ _ _).symm

theorem verifyLines_map (r : Resolver) (line : Int) (refs : List Reference) :
    verifyLines r (refs.map fun ref => (line, ref)) =
      (verifyAll r refs).map fun vs => vs.map fun v => (line, v) := by
  induction refs with
  | nil => rfl
  | cons ref refs ih =>
    simp only [List.map_cons, verifyLines, verifyAll, ih]
    cases verify r ref.kind ref.arg with
    | error e => rfl
    | ok v =>
      cases verifyAll r refs with
      | error e => rfl
      | ok vs => exact congrArg Except.ok (List.map_append).symm

theorem verifyTarget_eq (r : Resolver) (t : Target) :
    verifyTarget r t = verifyAll r (targetReferences t) := by
  obtain ⟨side, pet⟩ := t
  cases pet with
  | none => rfl
  | some arg =>
    simp only [verifyTarget, targetReferences]
    split
    · rfl
    · exact (verifyAll_singleton r .pet arg).symm

theorem verifySelector_eq (r : Resolver) (s : Option Selector) :
    verifySelector r s = verifyAll r (selectorReferences s) := by
  have hmember (target : Target) (kind : NameKind) (arg : Text) : (do
      let pet ← verifyTarget r target
      let own ← verify r kind arg
      return pet ++ own.toList) = verifyAll r (targetReferences target ++ [⟨kind, arg⟩]) := by
    rw [verifyAll_append, ← verifyTarget_eq, verifyAll_singleton, bind_pure_comp]
    cases verifyTarget r target with
    | error e => rfl
    | ok pet => cases verify r kind arg <;> rfl
  match s with
  | none => rfl
  | some (.global _) => rfl
  | some (.pet target _) => exact verifyTarget_eq r target
  | some (.ability target ref _) => exact hmember target .ability ref.text
  | some (.aura target ref _) => exact hmember target .aura ref.text

theorem verifyPredicates_eq (r : Resolver) (ps : List Predicate) :
    verifyPredicates r ps = verifyAll r (ps.flatMap fun p => selectorReferences p.selector) := by
  induction ps with
  | nil => rfl
  | cons p ps ih =>
    rw [List.flatMap_cons, verifyAll_append, verifyPredicates, ih, verifySelector_eq]

theorem verifyCondition_eq (r : Resolver) (c : Option Condition) :
    verifyCondition r c = verifyAll r (c.elim [] conditionReferences) := by
  cases c with
  | none => rfl
  | some c => exact verifyPredicates_eq r c.predicates

theorem verifyArgument_eq (r : Resolver) (a : Action) :
    (do return (← verifyArgument r a).toList) = verifyAll r (argumentReferences a) := by
  obtain ⟨kind, command, args, condition, conditionRaw, indent, line⟩ := a
  cases args with
  | none => cases kind <;> rfl
  | some arg =>
    cases kind with
    | ability => exact (verifyAll_singleton r .ability arg).symm
    | change =>
      simp only [verifyArgument, argumentReferences]
      split
      · rfl
      · exact (verifyAll_singleton r .pet arg).symm
    | quit | standby | capture | test | unknown => rfl

theorem verifyAction_eq (r : Resolver) (a : Action) :
    verifyAction r a = verifyAll r (actionReferences a) := by
  rw [actionReferences, verifyAll_append, ← verifyArgument_eq, ← verifyCondition_eq, verifyAction]
  cases verifyArgument r a <;> rfl

mutual

theorem verifyNode_eq (r : Resolver) : ∀ n, verifyNode r n = verifyLines r (nodeReferences n)
  | .separator _ => rfl
  | .error _ _ => rfl
  | .action a => by
    rw [verifyNode, nodeReferences, verifyLines_map, verifyAction_eq]
    rfl
  | .block head children => by
    rw [verifyNode, nodeReferences, verifyLines_append, verifyLines_map, verifyCondition_eq,
      Option.elim_some, verifyTree_eq r children]
    cases verifyAll r (conditionReferences head.condition) <;> rfl

theorem verifyTree_eq (r : Resolver) : ∀ ns, verifyTree r ns = verifyLines r (treeReferences ns)
  | [] => rfl
  | n :: ns => by
    rw [verifyTree, treeReferences, verifyLines_append, verifyNode_eq r n, verifyTree_eq r ns]

end

end BattleScript.Names
