import Mathlib.Data.List.Forall2
import Mathlib.Data.Option.Basic
import BattleScript.English.Describe
import BattleScript.Script.Block
import BattleScript.Proofs.Names.References

/-!
Verdicts under a growing catalog. All that a check takes from a catalog is the names found in it, so a
catalog with more entries changes nothing but the verdicts on ids that were unknown. Whether a check
fails does not depend on the catalog at all, and a resolver without a catalog is as good as one that is
empty.
-/
namespace BattleScript.Names
open Text Script

/-- Two runs fail with the same error, or give results that are related. -/
inductive Alike (R : α → β → Prop) : Except ε α → Except ε β → Prop
  | error (e : ε) : Alike R (.error e) (.error e)
  | ok {a : α} {b : β} (h : R a b) : Alike R (.ok a) (.ok b)

namespace Alike
variable {R : α → β → Prop} {S : γ → δ → Prop} {x : Except ε α} {y : Except ε β}

theorem refl (x : Except ε α) : Alike Eq x x := by
  cases x with
  | error e => exact .error e
  | ok a => exact .ok rfl

theorem mono {S : α → β → Prop} (h : Alike R x y) (hRS : ∀ a b, R a b → S a b) : Alike S x y := by
  cases h with
  | error e => exact .error e
  | ok h => exact .ok (hRS _ _ h)

theorem map (h : Alike R x y) {f : α → γ} {g : β → δ} (hfg : ∀ a b, R a b → S (f a) (g b)) :
    Alike S (x.map f) (y.map g) := by
  cases h with
  | error e => exact .error e
  | ok h => exact .ok (hfg _ _ h)

theorem bind (h : Alike R x y) {f : α → Except ε γ} {g : β → Except ε δ}
    (hfg : ∀ a b, R a b → Alike S (f a) (g b)) : Alike S (x >>= f) (y >>= g) := by
  cases h with
  | error e => exact .error e
  | ok h => exact hfg _ _ h

theorem exists_ok (h : Alike R x y) {a : α} (hx : x = .ok a) : ∃ b, y = .ok b ∧ R a b := by
  cases h with
  | error e => cases hx
  | ok h =>
    cases hx
    exact ⟨_, rfl, h⟩

theorem error_iff (h : Alike R x y) (e : ε) : x = .error e ↔ y = .error e := by
  cases h with
  | error e' => rw [Except.error.injEq, Except.error.injEq]
  | ok h => exact ⟨fun hx => (nomatch hx), fun hy => (nomatch hy)⟩

end Alike

def NameMap.Within (m m' : NameMap) : Prop :=
  ∀ id name, m.get? id = some name → m'.get? id = some name

structure Catalog.Within (c c' : Catalog) : Prop where
  abilities : c.abilities.Within c'.abilities
  pets : c.pets.Within c'.pets

theorem Catalog.empty_within (c : Catalog) : Catalog.empty.Within c :=
  ⟨fun _ _ h => (nomatch h), fun _ _ h => (nomatch h)⟩

def FindsMore (found found' : Option Text) : Prop :=
  ∀ name, found = some name → found' = some name

theorem FindsMore.map {found found' : Option Text} (h : FindsMore found found') (f : Text → Text) :
    FindsMore (found.map f) (found'.map f) := by
  intro name hname
  obtain ⟨name', hname', rfl⟩ := Option.map_eq_some_iff.1 hname
  rw [h name' hname', Option.map_some]

structure Verdict.Grows (v v' : Verdict) : Prop where
  kind : v'.kind = v.kind
  raw : v'.raw = v.raw
  id : v'.id = v.id
  provided : v'.provided = v.provided
  settled : v.check ≠ .notFound → v' = v
  found : v.check = .notFound → v' = v ∨ v'.resolved.isSome

theorem Verdict.Grows.refl (v : Verdict) : v.Grows v :=
  ⟨rfl, rfl, rfl, rfl, fun _ => rfl, fun _ => .inl rfl⟩

theorem grows_of_findsMore {kind : NameKind} {raw id : Text} {provided found found' : Option Text}
    (hid : isNumericId id = true) (h : FindsMore found found') :
    Verdict.Grows ⟨kind, raw, id, provided, found, classify provided id found⟩
      ⟨kind, raw, id, provided, found', classify provided id found'⟩ := by
  cases found with
  | some name =>
    rw [h name rfl]
    exact .refl _
  | none =>
    have hunknown : classify provided id none = .notFound := by
      rw [classify, hid]
      rfl
    refine ⟨rfl, rfl, rfl, rfl, fun hcheck => absurd hunknown hcheck, fun _ => ?_⟩
    cases found' with
    | none => exact .inl rfl
    | some name => exact .inr rfl

section Growth
variable {c c' : Catalog}

theorem alike_lookupAura (h : c.Within c') (id : Text) :
    Alike FindsMore ((Resolver.loaded c).lookupAura id) ((Resolver.loaded c').lookupAura id) := by
  unfold Resolver.lookupAura
  cases auraAbilityId id with
  | error e => exact .error e
  | ok next =>
    cases next with
    | none => exact .ok fun _ hname => (nomatch hname)
    | some next => exact .ok (FindsMore.map (h.abilities next) stripIdSuffix)

theorem alike_resolve (h : c.Within c') (kind : NameKind) (id : Text) :
    Alike FindsMore (resolve (.loaded c) kind id) (resolve (.loaded c') kind id) := by
  unfold resolve
  split
  · exact .ok fun _ hname => hname
  · cases kind with
    | ability => exact .ok (FindsMore.map (h.abilities id) stripIdSuffix)
    | aura => exact alike_lookupAura h id
    | pet => exact .ok (h.pets id)

theorem alike_verify (h : c.Within c') (kind : NameKind) (arg : Text) :
    Alike (Option.Rel Verdict.Grows) (verify (.loaded c) kind arg) (verify (.loaded c') kind arg) := by
  unfold verify
  split
  · exact .ok .none
  · cases hid : isNumericId (NamedId.ofText arg).id with
    | true =>
      apply (alike_resolve h kind (NamedId.ofText arg).id).map
      exact fun found found' hfound => .some (grows_of_findsMore hid hfound)
    | false =>
      -- What is no id is not looked up, and then the catalogs play no part.
      have hnone (r : Resolver) : resolve r kind (NamedId.ofText arg).id = .ok none := by
        unfold resolve
        rw [hid]
        rfl
      simp only [hnone]
      exact .ok (.some (.refl _))

theorem alike_verifyLines (h : c.Within c') (refs : List (Int × Reference)) :
    Alike (List.Forall₂ fun p q => q.1 = p.1 ∧ p.2.Grows q.2)
      (verifyLines (.loaded c) refs) (verifyLines (.loaded c') refs) := by
  induction refs with
  | nil => exact .ok .nil
  | cons head refs ih =>
    obtain ⟨line, ref⟩ := head
    apply (alike_verify h ref.kind ref.arg).bind
    intro v v' hv
    apply ih.bind
    intro vs vs' hvs
    cases hv with
    | none => exact .ok hvs
    | some hv => exact .ok (.cons ⟨rfl, hv⟩ hvs)

end Growth

theorem verify_failed (kind : NameKind) (arg : Text) :
    verify .failed kind arg = verify (.loaded .empty) kind arg := by
  cases kind <;> rfl

theorem verifyLines_congr {r r' : Resolver}
    (h : ∀ kind arg, verify r kind arg = verify r' kind arg) (refs : List (Int × Reference)) :
    verifyLines r refs = verifyLines r' refs := by
  induction refs with
  | nil => rfl
  | cons head refs ih => rw [verifyLines, verifyLines, h, ih]

end BattleScript.Names

namespace BattleScript.English
open Text Script Names

section
variable {r r' : Resolver} (h : ∀ kind arg, verify r kind arg = verify r' kind arg)
include h

theorem mention_congr : mention (some r) = mention (some r') := by
  funext kind arg
  rw [mention, mention, h]

theorem subject_congr : subject (some r) = subject (some r') := by
  funext target
  unfold subject targetPhrase
  rw [mention_congr h]

theorem describePredicate_congr : describePredicate (some r) = describePredicate (some r') := by
  funext p
  unfold describePredicate describeBoolean describeComparison
  rw [mention_congr h, subject_congr h]

theorem describeCondition_congr : describeCondition (some r) = describeCondition (some r') := by
  funext c
  have hps : ∀ ps, describePredicates (some r) ps = describePredicates (some r') ps := by
    intro ps
    induction ps with
    | nil => rfl
    | cons p ps ih => rw [describePredicates, describePredicates, describePredicate_congr h, ih]
  unfold describeCondition
  rw [hps]

theorem describeNode_congr : describeNode (some r) = describeNode (some r') := by
  funext n
  unfold describeNode describeAction describeCommand describeAbility describeChange
  rw [mention_congr h, describeCondition_congr h]
  rfl

/-- A description depends on a resolver only through the verdicts on single references. -/
theorem tell_congr (nodes : List Node) : tell (some r) nodes = tell (some r') nodes := by
  have hsteps : ∀ steps, describeSteps (some r) steps = describeSteps (some r') steps := by
    intro steps
    induction steps with
    | nil => rfl
    | cons step steps ih =>
      rw [describeSteps, describeSteps, describeNode_congr h, ih]
  exact hsteps _

end

end BattleScript.English

namespace BattleScript.Names
open Text Script

/-- With more entries in the catalog a tree has the same verdicts in the same places, except that ids
which were unknown may have been found. Without a catalog the verdicts and the descriptions are those
under an empty one. The error that ends a check does not depend on the catalog. -/
theorem verifyTree_grows (nodes : List Node) :
    (∀ c c' : Catalog, c.Within c' → ∀ vs, verifyTree (.loaded c) nodes = .ok vs →
      ∃ vs', verifyTree (.loaded c') nodes = .ok vs' ∧
        List.Forall₂ (fun p q => q.1 = p.1 ∧ p.2.Grows q.2) vs vs') ∧
      verifyTree .failed nodes = verifyTree (.loaded .empty) nodes ∧
      English.tell (some .failed) nodes = English.tell (some (.loaded .empty)) nodes ∧
      ∀ (c c' : Catalog) (e : LookupError),
        verifyTree (.loaded c) nodes = .error e ↔ verifyTree (.loaded c') nodes = .error e := by
  refine ⟨fun c c' hc vs hvs => ?_, ?_, ?_, fun c c' e => ?_⟩
  · rw [verifyTree_eq] at hvs ⊢
    exact (alike_verifyLines hc (treeReferences nodes)).exists_ok hvs
  · rw [verifyTree_eq, verifyTree_eq]
    exact verifyLines_congr verify_failed (treeReferences nodes)
  · exact English.tell_congr verify_failed nodes
  · -- Both catalogs have at least the entries of the empty one.
    have hleft := (alike_verifyLines c.empty_within (treeReferences nodes)).error_iff e
    have hright := (alike_verifyLines c'.empty_within (treeReferences nodes)).error_iff e
    rw [verifyTree_eq, verifyTree_eq]
    exact hleft.symm.trans hright

theorem verifyTree_grows_aura :
    let c : Catalog := ⟨NameMap.ofList [("595", "Moonfire:595")], NameMap.empty⟩
    let c' : Catalog := ⟨NameMap.ofList [("218", "Curse"), ("595", "Moonfire:595")], NameMap.empty⟩
    let nodes := parseLines ["use(Sunfire:595) [enemy.aura(217).exists]"]
    let vs : List (Int × Verdict) := [
      (1, ⟨.ability, "Sunfire:595", "595", some "Sunfire", some "Moonfire", .mismatch⟩),
      (1, ⟨.aura, "217", "217", none, none, .notFound⟩)]
    c.Within c' ∧ verifyTree (.loaded c) nodes = .ok vs ∧
      ∃ vs', verifyTree (.loaded c') nodes = .ok vs' ∧
        List.Forall₂ (fun p q => q.1 = p.1 ∧ p.2.Grows q.2) vs vs' := by
  intro c c' nodes vs
  have hwithin : c.Within c' := by
    refine ⟨fun id name h => ?_, fun id name h => h⟩
    by_cases hid : Text.of "595" = id
    · subst hid
      exact h
    · have hnone : c.abilities.get? id = none := if_neg hid
      rw [hnone] at h
      cases h
  have hvs : verifyTree (.loaded c) nodes = .ok vs := by decide +kernel
  exact ⟨hwithin, hvs, (verifyTree_grows nodes).1 c c' hwithin vs hvs⟩

end BattleScript.Names
