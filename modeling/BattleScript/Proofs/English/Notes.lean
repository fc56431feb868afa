import Mathlib.Tactic.SplitIfs
import BattleScript.English.Describe
import BattleScript.Script.Block
import BattleScript.Proofs.Names.References

/-!
Descriptions show what is wrong with names. A description looks up the same references as the check of
names does, in the same order, and puts the note of each verdict behind the mention it is about. So the
notes of all verdicts stand in the text one after another.
-/
namespace BattleScript.English
open Text Script Names

def InOrder : List Text → Text → Prop
  | [], _ => True
  | piece :: pieces, text =>
    ∃ before behind, text = before ++ piece ++ behind ∧ InOrder pieces behind

namespace InOrder
variable {ps qs : List Text} {t u : Text}

theorem left (t : Text) (h : InOrder qs u) : InOrder qs (t ++ u) := by
  cases qs with
  | nil => trivial
  | cons q qs =>
    obtain ⟨before, behind, rfl, hbehind⟩ := h
    refine ⟨t ++ before, behind, ?_, hbehind⟩
    simp only [List.append_assoc]

theorem append (h : InOrder ps t) (h' : InOrder qs u) : InOrder (ps ++ qs) (t ++ u) := by
  induction ps generalizing t with
  | nil => exact h'.left t
  | cons p ps ih =>
    obtain ⟨before, behind, rfl, hbehind⟩ := h
    refine ⟨before, behind ++ u, ?_, ih hbehind⟩
    simp only [List.append_assoc]

theorem right (h : InOrder ps t) : InOrder ps (t ++ u) := by
  have hnil : InOrder [] u := trivial
  have hboth := h.append hnil
  rwa [List.append_nil] at hboth

theorem single (t : Text) : InOrder [t] t :=
  ⟨[], [], by simp only [List.nil_append, List.append_nil], trivial⟩

theorem join_cons {sep : Text} {ts : List Text} (h : InOrder ps t) (h' : InOrder qs (join sep ts)) :
    InOrder (ps ++ qs) (join sep (t :: ts)) := by
  cases ts with
  | nil =>
    have hall := h.append h'
    rwa [show t ++ join sep [] = join sep [t] by simp [join]] at hall
  | cons t' ts =>
    have hall := (h.right (u := sep)).append h'
    rwa [show (t ++ sep) ++ join sep (t' :: ts) = join sep (t :: t' :: ts) by
      simp [join, List.intercalate]] at hall

end InOrder

theorem note_eq_nil_iff (v : Verdict) : v.note = [] ↔ v.isProblem = false := by
  obtain ⟨kind, raw, id, provided, resolved, check⟩ := v
  cases check <;> simp [Verdict.note, Verdict.isProblem, Text.of]

/-- A telling succeeds where its references can be checked, and holds the notes of their verdicts. -/
def Tells (r : Resolver) (refs : List Reference) (told : Telling) : Prop :=
  ∀ vs, verifyAll r refs = .ok vs → ∃ text, told = .ok text ∧ InOrder (vs.map Verdict.note) text

namespace Tells
variable {r : Resolver} {as bs : List Reference} {told : Telling}

theorem of_nil (r : Resolver) (text : Text) : Tells r [] (.ok text) := by
  intro vs h
  cases h
  exact ⟨text, rfl, trivial⟩

theorem map (h : Tells r as told) {f : Text → Text}
    (hf : ∀ ps text, InOrder ps text → InOrder ps (f text)) : Tells r as (told.map f) := by
  intro vs hvs
  obtain ⟨text, rfl, htext⟩ := h vs hvs
  exact ⟨f text, rfl, hf _ _ htext⟩

theorem bind (h : Tells r as told) {next : Text → Telling}
    (hnext : ∀ ps text vs, InOrder ps text → verifyAll r bs = .ok vs →
      ∃ text', next text = .ok text' ∧ InOrder (ps ++ vs.map Verdict.note) text') :
    Tells r (as ++ bs) (told >>= next) := by
  intro vs hvs
  obtain ⟨us, ws, hus, hws, rfl⟩ := verifyAll_append_eq_ok_iff.1 hvs
  obtain ⟨text, rfl, htext⟩ := h us hus
  obtain ⟨text', htext', hnotes⟩ := hnext _ text ws htext hws
  refine ⟨text', htext', ?_⟩
  rwa [List.map_append]

end Tells

section Mentions
variable {r : Resolver}

theorem mention_notes {kind : NameKind} {arg : Text} {vs : List Verdict}
    (h : verifyAll r [⟨kind, arg⟩] = .ok vs) :
    ∃ m, mention (some r) kind arg = .ok m ∧ InOrder (vs.map Verdict.note) m.note := by
  obtain ⟨v, hv, rfl⟩ := verifyAll_singleton_eq_ok_iff.1 h
  refine ⟨Mention.ofVerdict arg v, by rw [mention, hv]; rfl, ?_⟩
  cases v with
  | none => trivial
  | some v =>
    have hnote : (Mention.ofVerdict arg (some v)).note = v.note := by
      simp only [Mention.ofVerdict]
      split <;> rfl
    rw [hnote]
    exact InOrder.single v.note

theorem tells_mention {kind : NameKind} {arg : Text} {f : Mention → Text}
    (hf : ∀ ps m, InOrder ps m.note → InOrder ps (f m)) :
    Tells r [⟨kind, arg⟩] ((mention (some r) kind arg).map f) := by
  intro vs hvs
  obtain ⟨m, hm, hnotes⟩ := mention_notes hvs
  exact ⟨f m, by rw [hm]; rfl, hf _ m hnotes⟩

theorem verify_slot (r : Resolver) (kind : NameKind) {arg : Text} (h : arg.head? = some '#') :
    verifyAll r [⟨kind, arg⟩] = .ok [] := by
  rw [verifyAll, verify, if_pos h]
  rfl

theorem tells_slot {kind : NameKind} {arg : Text} (h : arg.head? = some '#') (text : Text) :
    Tells r [⟨kind, arg⟩] (.ok text) := by
  intro vs hvs
  rw [verify_slot r kind h] at hvs
  cases hvs
  exact ⟨text, rfl, trivial⟩

theorem capitalize_append {p : Text} (hp : p ≠ []) (t : Text) :
    capitalize (p ++ t) = capitalize p ++ t := by
  cases p with
  | nil => exact absurd rfl hp
  | cons c p => exact (List.append_assoc _ _ _).symm

theorem owner_ne_nil (side : Side) : owner side ≠ [] := by
  cases side <;> decide

theorem word_ne_nil (side : Side) : side.word ≠ [] := by
  cases side <;> decide

theorem tells_subject (r : Resolver) (target : Target) :
    Tells r (targetReferences target) (subject (some r) target) := by
  obtain ⟨side, pet⟩ := target
  unfold subject targetPhrase
  dsimp only
  split
  · exact .of_nil r _
  · exact .of_nil r _
  · exact tells_slot rfl _
  · rename_i arg hne hslot
    rw [targetReferences]
    dsimp only
    rw [if_neg hne]
    have hmap (f : Mention → Text) : ((mention (some r) .pet arg).map f).map capitalize =
        (mention (some r) .pet arg).map fun m => capitalize (f m) := by
      cases mention (some r) .pet arg <;> rfl
    rw [hmap]
    apply tells_mention
    intro ps m hm
    split
    · rw [List.append_assoc, capitalize_append (word_ne_nil side)]
      exact ((hm.left [')']).left _).left _
    · rw [List.append_assoc, List.append_assoc, capitalize_append (owner_ne_nil side)]
      exact ((hm.left _).left _).left _

end Mentions

section Predicates
variable {ps qs : List Text} {who : Text} {m : Mention}

theorem petComparison_notes (h : InOrder ps who) (holds : Bool) (property : Text)
    (operator : Operator) (value : Text) :
    InOrder ps (petComparison holds property operator value who) := by
  unfold petComparison
  split_ifs
  · exact h.right
  · exact h.right.right
  · exact h.right.right
  · exact h.right.right.right.right

theorem abilityComparison_notes (h : InOrder ps who) (hm : InOrder qs m.note) (holds : Bool)
    (property : Text) (operator : Operator) (value : Text) :
    InOrder (ps ++ qs) (abilityComparison holds property operator value who m) := by
  unfold abilityComparison
  split_ifs
  · exact h.right.right.right.append hm
  · exact h.right.right.right.append hm
  · exact h.right.right.right.right.right.append hm

theorem auraComparison_notes (h : InOrder ps who) (hm : InOrder qs m.note) (holds : Bool)
    (property : Text) (operator : Operator) (value : Text) :
    InOrder (ps ++ qs) (auraComparison holds property operator value who m) := by
  unfold auraComparison
  split_ifs
  · exact h.right.right.append hm
  · exact h.right.right.append hm
  · exact h.right.right.right.append hm
  · exact h.right.right.right.right.right.append hm

theorem tells_mentioned {r : Resolver} {refs : List Reference} {told : Telling} {kind : NameKind} {arg : Text}
    {f : Text → Mention → Text} (h : Tells r refs told)
    (hf : ∀ ps qs who m, InOrder ps who → InOrder qs m.note → InOrder (ps ++ qs) (f who m)) :
    Tells r (refs ++ [⟨kind, arg⟩])
      (told >>= fun who => mention (some r) kind arg >>= fun m => pure (f who m)) := by
  apply h.bind
  intro ps who vs hwho hvs
  obtain ⟨m, hm, hnotes⟩ := mention_notes hvs
  exact ⟨f who m, by rw [hm]; rfl, hf _ _ _ _ hwho hnotes⟩

theorem tells_comparison (r : Resolver) (p : Predicate) (operator : Operator) :
    Tells r (selectorReferences p.selector) (describeComparison (some r) p operator) := by
  obtain ⟨raw, selectorRaw, negated, _, value, selector⟩ := p
  cases selector with
  | none => exact .of_nil r _
  | some selector =>
    cases selector with
    | global s => exact .of_nil r _
    | pet target property =>
      exact (tells_subject r target).map fun _ _ h => petComparison_notes h _ property operator _
    | ability target ref property =>
      exact tells_mentioned (tells_subject r target) fun _ _ _ _ h hm =>
        abilityComparison_notes h hm _ property operator _
    | aura target ref property =>
      exact tells_mentioned (tells_subject r target) fun _ _ _ _ h hm =>
        auraComparison_notes h hm _ property operator _

theorem tells_boolean (r : Resolver) (p : Predicate) :
    Tells r (selectorReferences p.selector) (describeBoolean (some r) p) := by
  obtain ⟨raw, selectorRaw, negated, operator, value, selector⟩ := p
  cases selector with
  | none => exact .of_nil r _
  | some selector =>
    cases selector with
    | global s => exact .of_nil r _
    | pet target property => exact (tells_subject r target).map fun _ _ h => h.right
    | ability target ref property =>
      exact tells_mentioned (tells_subject r target) fun _ _ _ _ h hm =>
        h.right.right.right.append hm
    | aura target ref property =>
      exact tells_mentioned (tells_subject r target) fun _ _ _ _ h hm => h.right.right.append hm

theorem tells_predicate (r : Resolver) (p : Predicate) :
    Tells r (selectorReferences p.selector) (describePredicate (some r) p) := by
  unfold describePredicate
  split
  · exact tells_boolean r p
  · exact tells_comparison r p _

end Predicates

theorem describePredicates_notes (r : Resolver) (ps : List Predicate) {vs : List Verdict}
    (h : verifyAll r (ps.flatMap fun p => selectorReferences p.selector) = .ok vs) :
    ∃ texts, describePredicates (some r) ps = .ok texts ∧
      InOrder (vs.map Verdict.note) (join " AND " texts) := by
  induction ps generalizing vs with
  | nil =>
    cases h
    exact ⟨[], rfl, trivial⟩
  | cons p ps ih =>
    rw [List.flatMap_cons] at h
    obtain ⟨us, ws, hus, hws, rfl⟩ := verifyAll_append_eq_ok_iff.1 h
    obtain ⟨text, htext, hnotes⟩ := tells_predicate r p us hus
    obtain ⟨texts, htexts, hrest⟩ := ih hws
    refine ⟨text :: texts, ?_, ?_⟩
    · rw [describePredicates, htext, htexts]
      rfl
    · rw [List.map_append]
      exact hnotes.join_cons hrest

theorem tells_condition (r : Resolver) (c : Condition) :
    Tells r (conditionReferences c) (describeCondition (some r) c) := by
  intro vs hvs
  obtain ⟨texts, htexts, hnotes⟩ := describePredicates_notes r c.predicates hvs
  exact ⟨join " AND " texts, by rw [describeCondition, htexts]; rfl, hnotes⟩

theorem tells_command (r : Resolver) (a : Action) :
    Tells r (argumentReferences a) (describeCommand (some r) a) := by
  obtain ⟨kind, command, args, condition, conditionRaw, indent, line⟩ := a
  cases kind with
  | ability =>
    cases args with
    | none => exact .of_nil r _
    | some arg =>
      simp only [argumentReferences, describeCommand, describeAbility, Option.isSome_some, true_and]
      split
      · exact tells_slot (by assumption) _
      · exact tells_mention fun _ _ hm => hm.left _
  | change =>
    cases args with
    | none => exact .of_nil r _
    | some arg =>
      simp only [argumentReferences, describeCommand, describeChange]
      split
      · exact .of_nil r _
      · exact tells_mention fun _ _ hm => hm.left _
  | _ => exact .of_nil r _

theorem tells_action (r : Resolver) (a : Action) :
    Tells r (actionReferences a) (describeAction (some r) a) := by
  rw [actionReferences]
  unfold describeAction
  apply (tells_command r a).bind
  intro ps base vs hbase hvs
  cases hcondition : a.condition with
  | none =>
    rw [hcondition] at hvs
    cases hvs
    exact ⟨base, rfl, by rwa [List.map_nil, List.append_nil]⟩
  | some c =>
    rw [hcondition] at hvs
    obtain ⟨text, htext, hnotes⟩ := tells_condition r c vs hvs
    refine ⟨base ++ " if " ++ text, ?_, hbase.right.append hnotes⟩
    simp only [htext]
    rfl

/-- If the names of an action or of the head of a block can be checked, the node is described, and the
notes of the verdicts stand in its description in the order of the verdicts. A verdict has a note if it
finds fault. -/
theorem describeNode_notes (r : Resolver) :
    (∀ a vs, verifyAction r a = .ok vs →
      ∃ text, describeNode (some r) (.action a) = .ok text ∧
        InOrder (vs.map Verdict.note) text) ∧
      (∀ head children vs, verifyCondition r (some head.condition) = .ok vs →
        ∃ text, describeNode (some r) (.block head children) = .ok text ∧
          InOrder (vs.map Verdict.note) text) ∧
      ∀ v : Verdict, v.note = [] ↔ v.isProblem = false := by
  refine ⟨fun a vs hvs => tells_action r a vs ((verifyAction_eq r a).symm.trans hvs),
    fun head children vs hvs => ?_, note_eq_nil_iff⟩
  rw [verifyCondition_eq] at hvs
  obtain ⟨text, htext, hnotes⟩ := tells_condition r head.condition vs hvs
  exact ⟨"If " ++ text, by rw [describeNode, htext]; rfl, hnotes.left _⟩

theorem describeNode_notes_action :
    let r := Resolver.loaded ⟨NameMap.ofList [("595", "Moonfire:595")], NameMap.empty⟩
    let a := Action.ofCommand "use(Sunfire:595)" (some "!enemy(Ikky).aura(1).exists") 0 1
    let vs : List Verdict := [
      ⟨.ability, "Sunfire:595", "595", some "Sunfire", some "Moonfire", .mismatch⟩,
      ⟨.pet, "Ikky", "Ikky", none, none, .noId⟩,
      ⟨.aura, "1", "1", none, none, .notFound⟩]
    verifyAction r a = .ok vs ∧
      ∃ text, describeNode (some r) (.action a) = .ok text ∧ InOrder (vs.map Verdict.note) text := by
  intro r a vs
  have hvs : verifyAction r a = .ok vs := by rfl
  exact ⟨hvs, (describeNode_notes r).1 a vs hvs⟩

end BattleScript.English
