import BattleScript.Proofs.Names.References
import BattleScript.Proofs.Script.Preorder

/-!
Checking names line by line. The verdicts of a whole tree are those of its lines, one after another,
whatever blocks the lines make up: the tree in reading order holds each line once, and what it holds
besides refers to no name.
-/
namespace BattleScript.Names
open Text Script

theorem gathers_references : Node.Gathers nodeReferences treeReferences where
  nil := rfl
  cons _ _ := rfl
  block _ _ := by rw [nodeReferences, nodeReferences, treeReferences, List.append_nil]

def lineReferences (number : Nat) (l : Line) : List Reference :=
  match l.kind with
  | .action command condition =>
    actionReferences (Action.ofCommand command condition l.indent number)
  | .head (some condition) => conditionReferences (Condition.ofText condition)
  | _ => []

theorem nodeReferences_node? (l : Line) (number : Nat) (e : Option Nat) :
    (l.node? number e).toList.flatMap nodeReferences =
      (lineReferences number l).map fun ref => ((number : Int), ref) := by
  obtain ⟨indent, text, kind⟩ := l
  cases kind with
  | head condition =>
    cases condition with
    | none => rfl
    | some condition =>
      simp only [Line.node?, lineReferences, Option.toList_some, List.flatMap_cons,
        List.flatMap_nil, nodeReferences, treeReferences, List.append_nil]
  | action command condition =>
    simp only [Line.node?, lineReferences, Option.toList_some, List.flatMap_cons,
      List.flatMap_nil, nodeReferences, List.append_nil]
    rfl
  | _ => rfl

theorem treeReferences_parseLines (lines : List Text) :
    treeReferences (parseLines lines) =
      ((lines.map Line.ofText).zipIdx 1).flatMap fun p =>
        (lineReferences p.2 p.1).map fun ref => ((p.2 : Int), ref) := by
  have hnone : ((Reading.ofLines (lines.map Line.ofText)).opened.flatMap fun o =>
      nodeReferences (.error (unterminatedMessage o.line) o.line)) = [] :=
    List.flatMap_eq_nil_iff.2 fun _ _ => rfl
  have hrun := gathers_references.ofLines (lines.map Line.ofText)
  rw [hnone, List.append_nil] at hrun
  simp only [nodeReferences_node?] at hrun
  exact hrun

theorem verifyLines_flatMap (r : Resolver) (f : α → List (Int × Reference)) (xs : List α) :
    verifyLines r (xs.flatMap f) = xs.flatMapM fun x => verifyLines r (f x) := by
  induction xs with
  | nil => rfl
  | cons x xs ih => rw [List.flatMap_cons, verifyLines_append, ih, List.flatMapM_cons]

theorem verify_isOk {r : Resolver} {kind : NameKind} {arg : Text}
    (h : (resolve r kind (NamedId.ofText arg).id).isOk) : ∃ v, verify r kind arg = .ok v := by
  unfold verify
  split
  · exact ⟨none, rfl⟩
  · cases hr : resolve r kind (NamedId.ofText arg).id with
    | error e =>
      rw [hr] at h
      cases h
    | ok name =>
      simp only [hr]
      exact ⟨_, rfl⟩

theorem verifyAll_isOk {r : Resolver} {refs : List Reference}
    (h : ∀ ref ∈ refs, (resolve r ref.kind (NamedId.ofText ref.arg).id).isOk) :
    ∃ vs, verifyAll r refs = .ok vs := by
  induction refs with
  | nil => exact ⟨[], rfl⟩
  | cons ref refs ih =>
    obtain ⟨href, hrefs⟩ := List.forall_mem_cons.1 h
    obtain ⟨v, hv⟩ := verify_isOk href
    obtain ⟨vs, hvs⟩ := ih hrefs
    exact ⟨v.toList ++ vs, verifyAll_cons_eq_ok_iff.2 ⟨v, vs, hv, hvs, rfl⟩⟩

theorem sublist_of_verifyLines {r : Resolver} {refs : List (Int × Reference)}
    {vs : List (Int × Verdict)} (h : verifyLines r refs = .ok vs) :
    (vs.map Prod.fst).Sublist (refs.map Prod.fst) := by
  induction refs generalizing vs with
  | nil =>
    cases h
    exact List.Sublist.slnil
  | cons a refs ih =>
    obtain ⟨line, ref⟩ := a
    obtain ⟨v, ws, -, hws, rfl⟩ := verifyLines_cons_eq_ok_iff.1 h
    cases v with
    | none => exact (ih hws).cons line
    | some v => exact (ih hws).cons_cons line

def lineVerdicts (r : Resolver) (number : Nat) (l : Line) : Except LookupError (List Verdict) :=
  match l.kind with
  | .action command condition => verifyAction r (Action.ofCommand command condition l.indent number)
  | .head (some condition) => verifyCondition r (some (Condition.ofText condition))
  | _ => .ok []

theorem lineVerdicts_eq_verifyAll (r : Resolver) (number : Nat) (l : Line) :
    lineVerdicts r number l = verifyAll r (lineReferences number l) := by
  unfold lineVerdicts lineReferences
  split
  · exact verifyAction_eq r _
  · exact verifyCondition_eq r (some _)
  · rfl

theorem flatMapM_ok {f : α → Except ε (List β)} {g : α → List β} {xs : List α}
    (h : ∀ x ∈ xs, f x = .ok (g x)) : xs.flatMapM f = .ok (xs.flatMap g) := by
  induction xs with
  | nil => rfl
  | cons x xs ih =>
    obtain ⟨hx, hxs⟩ := List.forall_mem_cons.1 h
    rw [List.flatMapM_cons, hx, ih hxs, List.flatMap_cons]
    rfl

theorem pairwise_numbers (ls : List Line) (n : Nat) :
    (((ls.zipIdx n).flatMap fun p => (lineReferences p.2 p.1).map fun ref =>
      ((p.2 : Int), ref)).map Prod.fst).Pairwise (· ≤ ·) := by
  rw [List.map_flatMap, List.pairwise_flatMap]
  have hlines : (ls.zipIdx n).Pairwise fun p q => p.2 < q.2 := by
    have h := List.pairwise_lt_range' (s := n) (n := ls.length)
    rw [← List.zipIdx_map_snd n ls, List.pairwise_map] at h
    exact h
  refine ⟨fun p _ => ?_, hlines.imp fun {p q} hpq => ?_⟩
  · rw [List.map_map, List.pairwise_map]
    exact List.pairwise_of_forall fun _ _ => le_refl _
  · intro i hi j hj
    simp only [List.map_map, List.mem_map, Function.comp_apply] at hi hj
    obtain ⟨_, _, rfl⟩ := hi
    obtain ⟨_, _, rfl⟩ := hj
    exact Int.ofNat_le.2 hpq.le

/-- The verdicts of a tree are the verdicts of its lines, in order and each with the number of its
line; the first lookup that fails ends the check. If no lookup fails there are verdicts for every line,
and their numbers never decrease. -/
theorem verifyTree_parseLines (r : Resolver) (lines : List Text) :
    let ls := (lines.map Line.ofText).zipIdx 1
    verifyTree r (parseLines lines) =
        ls.flatMapM (fun p =>
          (lineVerdicts r p.2 p.1).map fun vs => vs.map fun v => ((p.2 : Int), v)) ∧
      ((∀ p ∈ ls, ∀ ref ∈ lineReferences p.2 p.1,
          (resolve r ref.kind (NamedId.ofText ref.arg).id).isOk) →
        ∃ verdicts : Line × Nat → List Verdict,
          (∀ p ∈ ls, lineVerdicts r p.2 p.1 = .ok (verdicts p)) ∧
          verifyTree r (parseLines lines) =
            .ok (ls.flatMap fun p => (verdicts p).map fun v => ((p.2 : Int), v))) ∧
      ∀ vs, verifyTree r (parseLines lines) = .ok vs → (vs.map Prod.fst).Pairwise (· ≤ ·) := by
  intro ls
  have hrefs := treeReferences_parseLines lines
  have heq : verifyTree r (parseLines lines) = ls.flatMapM fun p =>
      (lineVerdicts r p.2 p.1).map fun vs => vs.map fun v => ((p.2 : Int), v) := by
    rw [verifyTree_eq, hrefs, verifyLines_flatMap]
    simp only [verifyLines_map, lineVerdicts_eq_verifyAll]
    rfl
  refine ⟨heq, fun hlookup => ?_, fun vs hvs => ?_⟩
  · have hok : ∀ p ∈ ls, ∃ vs, lineVerdicts r p.2 p.1 = .ok vs := by
      intro p hp
      rw [lineVerdicts_eq_verifyAll]
      exact verifyAll_isOk (hlookup p hp)
    choose! verdicts hverdicts using hok
    refine ⟨verdicts, hverdicts, heq.trans (flatMapM_ok fun p hp => ?_)⟩
    rw [hverdicts p hp]
    rfl
  · rw [verifyTree_eq, hrefs] at hvs
    exact (pairwise_numbers _ 1).sublist (sublist_of_verifyLines hvs)

theorem verifyTree_parseLines_open :
    let r := Resolver.loaded ⟨NameMap.ofList [("595", "Moonfire:595")], NameMap.empty⟩
    let lines : List Text :=
      ["endif", "if [enemy(#1).aura(A:594).exists]", "use(Sunfire:595)", "quit"]
    let ls := (lines.map Line.ofText).zipIdx 1
    (∀ p ∈ ls, ∀ ref ∈ lineReferences p.2 p.1,
        (resolve r ref.kind (NamedId.ofText ref.arg).id).isOk) ∧
      ∃ verdicts : Line × Nat → List Verdict,
        (∀ p ∈ ls, lineVerdicts r p.2 p.1 = .ok (verdicts p)) ∧
        verifyTree r (parseLines lines) =
          .ok (ls.flatMap fun p => (verdicts p).map fun v => ((p.2 : Int), v)) := by
  intro r lines ls
  have hlookup : ∀ p ∈ ls, ∀ ref ∈ lineReferences p.2 p.1,
      (resolve r ref.kind (NamedId.ofText ref.arg).id).isOk := by decide +kernel
  exact ⟨hlookup, (verifyTree_parseLines r lines).2.1 hlookup⟩

example :
    verifyTree (.loaded ⟨NameMap.ofList [("595", "Moonfire:595")], NameMap.empty⟩)
        (parseLines ["endif", "if [enemy(#1).aura(A:594).exists]", "use(Sunfire:595)", "quit"]) =
      .ok [(2, ⟨.aura, "A:594", "594", some "A", some "Moonfire", .mismatch⟩),
        (3, ⟨.ability, "Sunfire:595", "595", some "Sunfire", some "Moonfire", .mismatch⟩)] := by
  decide +kernel

end BattleScript.Names
