import BattleScript.Proofs.Names.LineVerdicts

/-!
Ids with too many digits. Looking up an aura counts its id up by one, so the id and the one after it have
to stay within the limit of digits that a number may have. With a catalog that is loaded, nothing else
keeps a script from being checked.
-/
namespace BattleScript.Names
open Text Script

/-- An aura whose id, or the id after it, has too many digits. Slots have no id. -/
def Reference.BeyondLimit (ref : Reference) : Prop :=
  ref.kind = .aura ∧ ref.arg.head? ≠ some '#' ∧
    let id := (NamedId.ofText ref.arg).id
    isNumericId id = true ∧
      (Json.digitLimit < id.length ∨ Json.digitLimit < (ofNat (Json.decimalValue id + 1)).length)

theorem exists_lookupAura_iff (catalog : Catalog) (id : Text) :
    (∃ name, (Resolver.loaded catalog).lookupAura id = .ok name) ↔ ∃ next, auraAbilityId id = .ok next := by
  unfold Resolver.lookupAura
  cases auraAbilityId id with
  | error e => exact ⟨fun ⟨_, h⟩ => (nomatch h), fun ⟨_, h⟩ => (nomatch h)⟩
  | ok next =>
    refine ⟨fun _ => ⟨next, rfl⟩, fun _ => ?_⟩
    cases next with
    | none => exact ⟨none, rfl⟩
    | some next => exact ⟨_, rfl⟩

theorem exists_map_ok_iff {x : Except ε α} {f : α → β} :
    (∃ b, x.map f = .ok b) ↔ ∃ a, x = .ok a := by
  cases x with
  | error e => exact ⟨fun ⟨_, h⟩ => (nomatch h), fun ⟨_, h⟩ => (nomatch h)⟩
  | ok a => exact ⟨fun _ => ⟨a, rfl⟩, fun _ => ⟨f a, rfl⟩⟩

theorem exists_verifyLines_iff (r : Resolver) (refs : List (Int × Reference)) :
    (∃ vs, verifyLines r refs = .ok vs) ↔ ∀ p ∈ refs, ∃ v, verify r p.2.kind p.2.arg = .ok v := by
  induction refs with
  | nil => exact ⟨fun _ _ h => absurd h List.not_mem_nil, fun _ => ⟨[], rfl⟩⟩
  | cons head refs ih =>
    obtain ⟨line, ref⟩ := head
    rw [List.forall_mem_cons, ← ih]
    constructor
    · rintro ⟨vs, h⟩
      obtain ⟨v, rest, hv, hrest, -⟩ := verifyLines_cons_eq_ok_iff.1 h
      exact ⟨⟨v, hv⟩, rest, hrest⟩
    · rintro ⟨⟨v, hv⟩, rest, hrest⟩
      exact ⟨_, verifyLines_cons_eq_ok_iff.2 ⟨v, rest, hv, hrest, rfl⟩⟩

theorem exists_verifyAll_iff (r : Resolver) (refs : List Reference) :
    (∃ vs, verifyAll r refs = .ok vs) ↔ ∀ ref ∈ refs, ∃ v, verify r ref.kind ref.arg = .ok v := by
  have hlines := exists_verifyLines_iff r (refs.map fun ref => ((0 : Int), ref))
  rw [verifyLines_map, exists_map_ok_iff, List.forall_mem_map] at hlines
  exact hlines

end BattleScript.Names
