import Mathlib.Data.Bool.Basic
import BattleScript.Proofs.Names.Growth

/-!
Negation in descriptions. A bare selector, and a comparison with a truth value, is told by one of two
sentences that say the opposite of each other; a leading `!`, the operator and the value only choose
between them. Any other comparison is told in the same words with and without a leading `!`.
-/
namespace BattleScript.Script

namespace Predicate

def negate (p : Predicate) : Predicate :=
  { p with negated := !p.negated }

def bare (p : Predicate) (negated : Bool) : Predicate :=
  { p with negated, operator := none, value := none }

def compared (p : Predicate) (operator : Operator) (value : Text) : Predicate :=
  { p with operator := some operator, value := some value }

/-- One change that turns the sense of a comparison with a truth value around: of its operator, of its
leading `!`, or of its value, of which only `false` denies. -/
inductive Turned : Predicate → Predicate → Prop
  | toUnequal (p : Predicate) (v : Text) : Turned (p.compared .equals v) (p.compared .notEquals v)
  | toEqual (p : Predicate) (v : Text) : Turned (p.compared .notEquals v) (p.compared .equals v)
  | negation (p : Predicate) : Turned p p.negate
  | value (p : Predicate) (operator : Operator) {v w : Text}
      (h : v = Text.of "false" ↔ w ≠ Text.of "false") :
      Turned (p.compared operator v) (p.compared operator w)

end Predicate
end BattleScript.Script

namespace BattleScript.English
open Text Script Names

def isTruth : Selector → Bool
  | .global _ => false
  | .pet _ property => isBooleanProperty property
  | .ability _ _ property => property = Text.of "usable"
  | .aura _ _ property => property = Text.of "exists"

def isYesNo : Selector → Operator → Bool
  | .pet target property, operator =>
    (operator = .equals || operator = .notEquals) && isTruth (.pet target property)
  | s, _ => isTruth s

/-- Whether the description of a predicate tells that it is negated. -/
def showsNegation (p : Predicate) : Bool :=
  match p.operator, p.selector with
  | none, _ => true
  | some operator, some s => isYesNo s operator
  | some _, none => false

theorem booleanVerb_injective (property : Text) : Function.Injective (booleanVerb property) := by
  rw [Bool.injective_iff]
  have htable : ∀ entry ∈ booleanVerbs, entry.2.2 ≠ entry.2.1 := by decide +kernel
  unfold booleanVerb
  cases hlookup : booleanVerbs.lookup property with
  | some verbs =>
    have hmem : (property, verbs) ∈ booleanVerbs := by
      obtain ⟨before, behind, heq, -⟩ := List.lookup_eq_some_iff.1 hlookup
      rw [heq]
      exact List.mem_append_right _ (List.mem_cons_self ..)
    exact htable _ hmem
  | none =>
    have hfront : Text.of "is NOT " ≠ Text.of "is " := by decide
    intro h
    exact hfront (List.append_cancel_right h)

theorem abilityVerb_injective (property : Text) : Function.Injective fun holds : Bool =>
    if property = Text.of "usable" then (if holds then Text.of "is ready" else Text.of "is NOT ready")
    else booleanVerb property holds := by
  by_cases hproperty : property = Text.of "usable"
  · simp only [if_pos hproperty]
    exact Bool.injective_iff.2 (by decide)
  · simp only [if_neg hproperty]
    exact booleanVerb_injective property

theorem ne_of_verb {verb : Bool → Text} (h : Function.Injective verb) (holds : Bool)
    (before behind : Text) : before ++ verb holds ++ behind ≠ before ++ verb (!holds) ++ behind := by
  intro heq
  have hverb : verb holds = verb (!holds) := List.append_cancel_left (List.append_cancel_right heq)
  exact Bool.not_ne_self holds (h hverb).symm

theorem alike_boolean (names : Option Resolver) (p : Predicate) :
    Alike (· ≠ ·) (describeBoolean names p) (describeBoolean names p.negate) := by
  obtain ⟨raw, selectorRaw, negated, operator, value, selector⟩ := p
  cases selector with
  | none =>
    have hverb : Function.Injective fun holds : Bool => if holds then [] else Text.of "NOT " :=
      Bool.injective_iff.2 (by decide)
    exact .ok (ne_of_verb hverb (!negated) [] (capitalize selectorRaw))
  | some s =>
    cases s with
    | global subject =>
      have hverb : Function.Injective fun holds : Bool =>
          Text.of (if holds then " is set" else " is NOT set") := Bool.injective_iff.2 (by decide)
      have hne := ne_of_verb hverb (!negated) (capitalize subject.word) []
      rw [List.append_nil, List.append_nil] at hne
      exact .ok hne
    | pet target property =>
      apply (Alike.refl (subject names target)).bind
      rintro who _ rfl
      have hne := ne_of_verb (booleanVerb_injective property) (!negated) (who ++ [' ']) []
      simp only [List.append_nil, List.append_assoc] at hne
      exact .ok hne
    | ability target ref property =>
      apply (Alike.refl (subject names target)).bind
      rintro who _ rfl
      apply (Alike.refl (mention names .ability ref.text)).bind
      rintro m _ rfl
      have hne := ne_of_verb (abilityVerb_injective property) (!negated)
        (who ++ "'s ability " ++ m.label ++ [' ']) m.note
      simp only [List.append_assoc] at hne ⊢
      exact .ok hne
    | aura target ref property =>
      apply (Alike.refl (subject names target)).bind
      rintro who _ rfl
      apply (Alike.refl (mention names .aura ref.text)).bind
      rintro m _ rfl
      have hverb : Function.Injective fun holds : Bool =>
          Text.of (if holds then " has aura " else " does NOT have aura ") :=
        Bool.injective_iff.2 (by decide)
      have hne := ne_of_verb hverb (!negated) who (m.label ++ m.note)
      simp only [← List.append_assoc] at hne
      exact .ok hne

theorem describeComparison_yesNo (names : Option Resolver) {p : Predicate} {s : Selector}
    {operator : Operator} (hs : p.selector = some s) (h : isYesNo s operator) :
    describeComparison names p operator =
      describeBoolean names (p.bare (!(isAffirmative operator (p.value.getD []) != p.negated))) := by
  obtain ⟨raw, selectorRaw, negated, _, value, _⟩ := p
  obtain rfl := hs
  simp only [describeComparison, describeBoolean, Predicate.bare, Bool.not_not]
  cases s with
  | global subject => cases h
  | pet target property =>
    have hboth : (operator = .equals ∨ operator = .notEquals) ∧ isBooleanProperty property := by
      simpa [isYesNo, isTruth] using h
    simp only [petComparison, if_pos hboth]
  | ability target ref property =>
    have hproperty : property = Text.of "usable" := of_decide_eq_true h
    simp only [abilityComparison, if_pos hproperty]
    cases isAffirmative operator (value.getD []) != negated <;> rfl
  | aura target ref property =>
    have hproperty : property = Text.of "exists" := of_decide_eq_true h
    simp only [auraComparison, if_pos hproperty]

theorem describeComparison_negate (names : Option Resolver) {p : Predicate} {operator : Operator}
    (h : ∀ s, p.selector = some s → isYesNo s operator = false) :
    describeComparison names p.negate operator = describeComparison names p operator := by
  obtain ⟨raw, selectorRaw, negated, _, value, selector⟩ := p
  cases selector with
  | none => rfl
  | some s =>
    have hs := h s rfl
    simp only [describeComparison, Predicate.negate]
    cases s with
    | global subject => rfl
    | pet target property =>
      have hnot : ¬ ((operator = .equals ∨ operator = .notEquals) ∧ isBooleanProperty property) := by
        simpa [isYesNo, isTruth] using hs
      simp only [petComparison, if_neg hnot]
    | ability target ref property =>
      have hproperty : property ≠ Text.of "usable" := of_decide_eq_false hs
      simp only [abilityComparison, if_neg hproperty]
    | aura target ref property =>
      have hproperty : property ≠ Text.of "exists" := of_decide_eq_false hs
      simp only [auraComparison, if_neg hproperty]

def affirms (p : Predicate) : Bool :=
  match p.operator with
  | none => !p.negated
  | some operator => isAffirmative operator (p.value.getD []) != p.negated

theorem affirms_negate (p : Predicate) : affirms p.negate = !affirms p := by
  obtain ⟨raw, selectorRaw, negated, operator, value, selector⟩ := p
  cases operator with
  | none => rfl
  | some operator => simp [affirms, Predicate.negate]

theorem describePredicate_eq_bare (names : Option Resolver) {p : Predicate} (h : showsNegation p) :
    describePredicate names p = describePredicate names (p.bare !affirms p) := by
  obtain ⟨raw, selectorRaw, negated, operator, value, selector⟩ := p
  cases operator with
  | none =>
    cases negated <;> rfl
  | some operator =>
    cases selector with
    | none => cases h
    | some s => exact describeComparison_yesNo names rfl h

/-- With and without a leading `!`, a predicate is told or fails alike, and the two texts differ exactly
where the description of the predicate shows negation. -/
theorem describePredicate_negate (names : Option Resolver) (p : Predicate) :
    Alike (fun text text' => text ≠ text' ↔ showsNegation p)
      (describePredicate names p) (describePredicate names p.negate) := by
  cases hshows : showsNegation p with
  | true =>
    have hnegate : showsNegation p.negate = true := hshows
    have halike := alike_boolean names (p.bare !affirms p)
    rw [describePredicate_eq_bare names hshows, describePredicate_eq_bare names hnegate, affirms_negate]
    apply halike.mono
    intro text text' hne
    exact iff_of_true hne rfl
  | false =>
    have heq : describePredicate names p.negate = describePredicate names p := by
      cases hoperator : p.operator with
      | none =>
        rw [showsNegation, hoperator] at hshows
        cases hshows
      | some operator =>
        have hcomparison : ∀ s, p.selector = some s → isYesNo s operator = false := by
          intro s hs
          rwa [showsNegation, hoperator, hs] at hshows
        have hsame := describeComparison_negate names hcomparison
        rwa [describePredicate, describePredicate, hoperator,
          show p.negate.operator = some operator from hoperator]
    rw [heq]
    apply (Alike.refl (describePredicate names p)).mono
    rintro text _ rfl
    simp

/-- Nothing in the description of a comparison tells that it is negated, if it is not a yes or no. -/
theorem describePredicate_negated_comparison :
    describePredicate none (Predicate.ofText "!mystery=1") = .ok "Mystery is 1" ∧
      (Predicate.ofText "!mystery=1").negated = true ∧
      describePredicate none (Predicate.ofText "!mystery=1").negate = .ok "Mystery is 1" := by
  decide +kernel

theorem isAffirmative_equals (v : Text) : isAffirmative .equals v = !decide (v = Text.of "false") := by
  simp [isAffirmative]

theorem isAffirmative_notEquals (v : Text) : isAffirmative .notEquals v = decide (v = Text.of "false") := by
  simp [isAffirmative]

structure ComparesTruth (p : Predicate) : Prop where
  selector : ∃ s, p.selector = some s ∧ isTruth s
  operator : p.operator = some .equals ∨ p.operator = some .notEquals

theorem ComparesTruth.showsNegation {p : Predicate} (h : ComparesTruth p) : showsNegation p := by
  obtain ⟨s, hs, htruth⟩ := h.selector
  have hyesNo (operator : Operator) (hoperator : operator = .equals ∨ operator = .notEquals) :
      isYesNo s operator = true := by
    cases s <;> simpa [isYesNo, hoperator] using htruth
  rcases h.operator with hoperator | hoperator
  · rw [English.showsNegation, hoperator, hs]
    exact hyesNo .equals (.inl rfl)
  · rw [English.showsNegation, hoperator, hs]
    exact hyesNo .notEquals (.inr rfl)

section Turned
variable {p q : Predicate}

theorem comparesTruth_of_turned (h : p.Turned q) (hp : ComparesTruth p) : ComparesTruth q := by
  obtain ⟨hselector, hoperator⟩ := hp
  cases h with
  | toUnequal p v => exact ⟨hselector, .inr rfl⟩
  | toEqual p v => exact ⟨hselector, .inl rfl⟩
  | negation => exact ⟨hselector, hoperator⟩
  | value p operator h => exact ⟨hselector, hoperator⟩

theorem affirms_of_turned (h : p.Turned q) (hp : ComparesTruth p) : affirms q = !affirms p := by
  cases h with
  | toUnequal p v => simp [affirms, Predicate.compared, isAffirmative_equals, isAffirmative_notEquals]
  | toEqual p v => simp [affirms, Predicate.compared, isAffirmative_equals, isAffirmative_notEquals]
  | negation => exact affirms_negate p
  | @value p operator v w h =>
    have hvalue : isAffirmative operator w = !isAffirmative operator v := by
      have hfalse : decide (w = Text.of "false") = !decide (v = Text.of "false") := by
        simp [h]
      rcases hp.operator with hoperator | hoperator
      · obtain rfl : operator = .equals := Option.some.inj hoperator
        rw [isAffirmative_equals, isAffirmative_equals, hfalse]
      · obtain rfl : operator = .notEquals := Option.some.inj hoperator
        rw [isAffirmative_notEquals, isAffirmative_notEquals, hfalse]
    simp [affirms, Predicate.compared, hvalue]

theorem bare_of_turned (h : p.Turned q) (negated : Bool) : q.bare negated = p.bare negated := by
  cases h <;> rfl

theorem describePredicate_of_turned (names : Option Resolver) (h : p.Turned q) (hp : ComparesTruth p) :
    describePredicate names q = describePredicate names (p.bare (affirms p)) := by
  have hq := (comparesTruth_of_turned h hp).showsNegation
  rw [describePredicate_eq_bare names hq, affirms_of_turned h hp, Bool.not_not, bare_of_turned h]

end Turned

/-- A comparison of something true or false reads as its bare selector, negated if just one of the
leading `!`, the operator and the value denies. So each change of one of them gives the opposite sentence,
and a second one gives the first sentence back. -/
theorem describePredicate_parity (names : Option Resolver) {p : Predicate} {s : Selector}
    (hs : p.selector = some s) (htruth : isTruth s) :
    (∀ v, describePredicate names (p.compared .equals v) =
      describePredicate names (p.bare (p.negated ^^ decide (v = Text.of "false")))) ∧
    (∀ v, describePredicate names (p.compared .notEquals v) =
      describePredicate names (p.bare (p.negated ^^ decide (v ≠ Text.of "false")))) ∧
    (∀ negated, Alike (· ≠ ·) (describePredicate names (p.bare negated))
      (describePredicate names (p.bare !negated))) ∧
    ∀ operator v q, operator = .equals ∨ operator = .notEquals → (p.compared operator v).Turned q →
      (∃ negated,
        describePredicate names (p.compared operator v) = describePredicate names (p.bare negated) ∧
        describePredicate names q = describePredicate names (p.bare !negated)) ∧
      ∀ r, q.Turned r → describePredicate names r = describePredicate names (p.compared operator v) := by
  have hcompares (operator : Operator) (v : Text)
      (hoperator : operator = .equals ∨ operator = .notEquals) : ComparesTruth (p.compared operator v) :=
    ⟨⟨s, hs, htruth⟩, hoperator.imp (congrArg some) (congrArg some)⟩
  have hbare (operator : Operator) (v : Text) (hoperator : operator = .equals ∨ operator = .notEquals) :
      describePredicate names (p.compared operator v) =
        describePredicate names (p.bare !affirms (p.compared operator v)) :=
    describePredicate_eq_bare names (hcompares operator v hoperator).showsNegation
  refine ⟨fun v => ?_, fun v => ?_, fun negated => ?_, fun operator v q hoperator hq => ⟨?_, ?_⟩⟩
  · have haffirms : affirms (p.compared .equals v) = !(p.negated ^^ decide (v = Text.of "false")) := by
      simp [affirms, Predicate.compared, isAffirmative_equals, Bool.xor_comm]
    rw [hbare .equals v (.inl rfl), haffirms, Bool.not_not]
  · have haffirms : affirms (p.compared .notEquals v) = !(p.negated ^^ decide (v ≠ Text.of "false")) := by
      simp [affirms, Predicate.compared, isAffirmative_notEquals, Bool.xor_comm]
    rw [hbare .notEquals v (.inr rfl), haffirms, Bool.not_not]
  · exact alike_boolean names (p.bare negated)
  · refine ⟨!affirms (p.compared operator v), hbare operator v hoperator, ?_⟩
    rw [Bool.not_not]
    exact describePredicate_of_turned names hq (hcompares operator v hoperator)
  · intro r hr
    have hp := hcompares operator v hoperator
    rw [describePredicate_of_turned names hr (comparesTruth_of_turned hq hp), affirms_of_turned hq hp,
      bare_of_turned hq, hbare operator v hoperator]
    rfl

theorem describePredicate_parity_aura :
    let r := Resolver.loaded ⟨NameMap.ofList [("218", "Rampage:218")], NameMap.empty⟩
    let p := Predicate.ofText "!enemy(#2).aura(Fury:217).exists != true"
    let text := "Enemy pet #2 has aura Fury (217)" ++
      " [name mismatch: script says 'Fury' but catalog says 'Rampage']"
    p.selector = some (.aura ⟨.enemy, some "#2"⟩ ⟨some "Fury", "217"⟩ "exists") ∧
      isTruth (.aura ⟨.enemy, some "#2"⟩ ⟨some "Fury", "217"⟩ "exists") ∧
      describePredicate (some r) (p.compared .notEquals "true") = describePredicate (some r) (p.bare false) ∧
      describePredicate (some r) (p.bare false) = .ok text := by
  intro r p text
  have hs : p.selector = some (.aura ⟨.enemy, some "#2"⟩ ⟨some "Fury", "217"⟩ "exists") := by
    decide +kernel
  have htruth : isTruth (.aura ⟨.enemy, some "#2"⟩ ⟨some "Fury", "217"⟩ "exists") := by decide
  exact ⟨hs, htruth, (describePredicate_parity (some r) hs htruth).2.1 "true", by decide +kernel⟩

end BattleScript.English
