import BattleScript.Proofs.Names.AuraLine

/-!
Where a check of names ends early. A check looks at the references of a tree in the order of a walk, and
the first of them that cannot be looked up ends it. Only numbers are looked up, so bare names and slots
never end a check. A number cannot be looked up without a catalog, and that of an aura not beyond the
limit of digits, which is noticed first.
-/
namespace BattleScript.Names
open Text Script

def ownReferences : Node → List Reference
  | .action a => actionReferences a
  | .block head _ => conditionReferences head.condition
  | _ => []

/-- The references of a tree in the order of a walk. Slots name nothing and are passed over. -/
def walkedReferences (nodes : List Node) : List Reference :=
  ((Node.walkAll 0 nodes).flatMap fun e => ownReferences e.2).filter fun ref =>
    ref.arg.head? ≠ some '#'

theorem map_snd_nodeReferences_own (n : Node) :
    (nodeReferences n.own).map Prod.snd = ownReferences n := by
  cases n with
  | separator indent => rfl
  | action a => simp [Node.own, nodeReferences, ownReferences, Function.comp_def]
  | error message line => rfl
  | block head children =>
    simp [Node.own, nodeReferences, treeReferences, ownReferences, Function.comp_def]

theorem map_snd_treeReferences (nodes : List Node) :
    (treeReferences nodes).map Prod.snd =
      (Node.walkAll 0 nodes).flatMap fun e => ownReferences e.2 := by
  have hwalk := gathers_references.preorder 0 nodes
  rw [← hwalk, Node.preorder, List.flatMap_map, List.map_flatMap]
  simp only [map_snd_nodeReferences_own]

def errorOf : Except ε α → Option ε
  | .error e => some e
  | .ok _ => none

theorem errorOf_eq_some_iff {x : Except ε α} {e : ε} : errorOf x = some e ↔ x = .error e := by
  cases x <;> simp [errorOf]

theorem errorOf_eq_none_iff {x : Except ε α} : errorOf x = none ↔ ∃ a, x = .ok a := by
  cases x <;> simp [errorOf]

theorem errorOf_map (f : α → β) (x : Except ε α) : errorOf (x.map f) = errorOf x := by
  cases x <;> rfl

theorem errorOf_verifyLines (r : Resolver) (refs : List (Int × Reference)) :
    errorOf (verifyLines r refs) =
      (refs.map Prod.snd).findSome? fun ref => errorOf (verify r ref.kind ref.arg) := by
  induction refs with
  | nil => rfl
  | cons p refs ih =>
    obtain ⟨line, ref⟩ := p
    rw [List.map_cons, List.findSome?_cons, ← ih, verifyLines]
    cases verify r ref.kind ref.arg with
    | error e => rfl
    | ok v => cases verifyLines r refs <;> rfl

def Reference.IsNumbered (ref : Reference) : Prop :=
  isNumericId (NamedId.ofText ref.arg).id = true

def Reference.Fails (r : Resolver) (ref : Reference) : Prop :=
  ref.IsNumbered ∧ (r = .pending ∨ ref.BeyondLimit)

instance (ref : Reference) : Decidable ref.BeyondLimit :=
  inferInstanceAs (Decidable (_ ∧ _ ∧ _ ∧ _))

instance (r : Resolver) (ref : Reference) : Decidable (ref.Fails r) :=
  inferInstanceAs (Decidable (_ = _ ∧ _))

/-- What the check ends with at a reference that cannot be looked up. The limit of digits comes before
the catalog. -/
def Reference.fault (ref : Reference) : LookupError :=
  let id := (NamedId.ofText ref.arg).id
  if ref.BeyondLimit then
    if Json.digitLimit < id.length then .idTooLong id.length else .successorTooLong
  else .notLoaded

theorem errorOf_catalog (r : Resolver) :
    errorOf r.catalog = if r = .pending then some .notLoaded else none := by
  cases r <;> simp [Resolver.catalog, errorOf]

theorem errorOf_lookupAbility (r : Resolver) (id : Text) :
    errorOf (r.lookupAbility id) = if r = .pending then some .notLoaded else none := by
  rw [Resolver.lookupAbility, errorOf_map, errorOf_catalog]

theorem errorOf_lookupPet (r : Resolver) (id : Text) :
    errorOf (r.lookupPet id) = if r = .pending then some .notLoaded else none := by
  rw [Resolver.lookupPet, errorOf_map, errorOf_catalog]

theorem lookupAura_of_next {id next : Text} (h : auraAbilityId id = .ok (some next)) (r : Resolver) :
    r.lookupAura id = (r.lookupAbility next).map fun found => found.map stripIdSuffix := by
  rw [Resolver.lookupAura, h]
  change (do return (← r.lookupAbility next).map stripIdSuffix) = _
  cases r.lookupAbility next <;> rfl

theorem errorOf_lookupAura {id : Text} (hid : isNumericId id = true) (r : Resolver) :
    errorOf (r.lookupAura id) =
      if Json.digitLimit < id.length then some (.idTooLong id.length)
      else if Json.digitLimit < (ofNat (Json.decimalValue id + 1)).length then some .successorTooLong
      else if r = .pending then some .notLoaded else none := by
  have hnumber : auraAbilityId id =
      if Json.digitLimit < id.length then .error (.idTooLong id.length)
      else if Json.digitLimit < (ofNat (Json.decimalValue id + 1)).length then .error .successorTooLong
      else .ok (some (ofNat (Json.decimalValue id + 1))) := by
    simp only [auraAbilityId, hid, Bool.not_true, Bool.false_eq_true, if_false]
  by_cases hlong : Json.digitLimit < id.length
  · rw [if_pos hlong] at hnumber ⊢
    rw [Resolver.lookupAura, hnumber]
    rfl
  by_cases hnext : Json.digitLimit < (ofNat (Json.decimalValue id + 1)).length
  · rw [if_neg hlong, if_pos hnext] at hnumber ⊢
    rw [Resolver.lookupAura, hnumber]
    rfl
  · rw [if_neg hlong, if_neg hnext] at hnumber ⊢
    rw [lookupAura_of_next hnumber, errorOf_map, errorOf_lookupAbility]

theorem not_beyondLimit {ref : Reference} (h : ref.kind ≠ .aura) : ¬ ref.BeyondLimit :=
  fun hlimit => h hlimit.1

theorem errorOf_verify (r : Resolver) {ref : Reference} (hslot : ref.arg.head? ≠ some '#') :
    errorOf (verify r ref.kind ref.arg) = if ref.Fails r then some ref.fault else none := by
  rw [verify, if_neg hslot, errorOf_map]
  unfold resolve
  by_cases hid : isNumericId (NamedId.ofText ref.arg).id = true
  · have hfails : ref.Fails r ↔ r = .pending ∨ ref.BeyondLimit := and_iff_right hid
    simp only [hid, Bool.not_true, Bool.false_eq_true, if_false, hfails]
    cases hkind : ref.kind with
    | ability =>
      have hlimit : ¬ ref.BeyondLimit := not_beyondLimit (by simp [hkind])
      simp [errorOf_map, errorOf_lookupAbility, Reference.fault, hlimit]
    | pet =>
      have hlimit : ¬ ref.BeyondLimit := not_beyondLimit (by simp [hkind])
      simp [errorOf_lookupPet, Reference.fault, hlimit]
    | aura =>
      have hlimit : ref.BeyondLimit ↔ Json.digitLimit < (NamedId.ofText ref.arg).id.length ∨
          Json.digitLimit < (ofNat (Json.decimalValue (NamedId.ofText ref.arg).id + 1)).length :=
        ⟨fun h => h.2.2.2, fun h => ⟨hkind, hslot, hid, h⟩⟩
      dsimp only
      rw [errorOf_lookupAura hid]
      simp only [Reference.fault, hlimit]
      by_cases hlong : Json.digitLimit < (NamedId.ofText ref.arg).id.length
      · simp [hlong]
      · by_cases hnext : Json.digitLimit <
            (ofNat (Json.decimalValue (NamedId.ofText ref.arg).id + 1)).length <;>
          simp [hlong, hnext]
  · have hfails : ¬ ref.Fails r := fun h => hid h.1
    simp [hid, hfails, errorOf]

theorem verify_ok_of_not_numbered (r : Resolver) {ref : Reference}
    (h : ref.arg.head? = some '#' ∨ ¬ ref.IsNumbered) : ∃ v, verify r ref.kind ref.arg = .ok v := by
  by_cases hslot : ref.arg.head? = some '#'
  · exact ⟨none, by rw [verify, if_pos hslot]⟩
  · have hbare : ¬ ref.IsNumbered := h.resolve_left hslot
    have hfails : ¬ ref.Fails r := fun hf => hbare hf.1
    rw [← errorOf_eq_none_iff, errorOf_verify r hslot, if_neg hfails]

theorem fault_nines :
    Reference.fault ⟨.aura, List.replicate Json.digitLimit '9'⟩ = .successorTooLong := by
  have hid : isNumericId (List.replicate Json.digitLimit '9') = true := isNumericId_nines (by decide)
  rw [Reference.fault, if_pos beyondLimit_nines, namedId_of_isNumericId hid]
  exact if_neg (by rw [List.length_replicate]; exact Nat.lt_irrefl _)

theorem errorOf_verifyTree (r : Resolver) (nodes : List Node) :
    errorOf (verifyTree r nodes) =
      (walkedReferences nodes).findSome? fun ref => if ref.Fails r then some ref.fault else none := by
  rw [verifyTree_eq, errorOf_verifyLines, map_snd_treeReferences, walkedReferences]
  rw [← List.head?_filterMap, ← List.head?_filterMap, List.filterMap_filter]
  congr 1
  apply List.filterMap_congr
  intro ref _
  by_cases hslot : ref.arg.head? = some '#'
  · obtain ⟨v, hv⟩ := verify_ok_of_not_numbered r (.inl hslot)
    simp [hslot, hv, errorOf]
  · simp [hslot, errorOf_verify r hslot]

/-- A check ends early exactly if some reference cannot be looked up, and with the error of the first
such reference. Slots and bare names always can. -/
theorem verifyTree_first_fault (r : Resolver) (nodes : List Node) :
    ((∃ e, verifyTree r nodes = .error e) ↔ ∃ ref ∈ walkedReferences nodes, ref.Fails r) ∧
    (∀ e, verifyTree r nodes = .error e ↔
      ∃ before ref behind, walkedReferences nodes = before ++ ref :: behind ∧
        (∀ b ∈ before, ¬ b.Fails r) ∧ ref.Fails r ∧ e = ref.fault) ∧
    ∀ ref : Reference, ref.arg.head? = some '#' ∨ ¬ ref.IsNumbered →
      ∃ v, verify r ref.kind ref.arg = .ok v := by
  refine ⟨?_, fun e => ?_, fun ref => verify_ok_of_not_numbered r⟩
  · have hsome : (∃ e, verifyTree r nodes = .error e) ↔ (errorOf (verifyTree r nodes)).isSome := by
      simp only [Option.isSome_iff_exists, errorOf_eq_some_iff]
    rw [hsome, errorOf_verifyTree, List.findSome?_isSome_iff]
    apply exists_congr
    intro ref
    by_cases h : ref.Fails r <;> simp [h]
  · rw [← errorOf_eq_some_iff, errorOf_verifyTree, List.findSome?_eq_some_iff]
    constructor
    · rintro ⟨before, ref, behind, hrefs, hfault, hbefore⟩
      obtain ⟨hfails, he⟩ := Option.ite_none_right_eq_some.1 hfault
      refine ⟨before, ref, behind, hrefs, fun b hb hb' => ?_, hfails, (Option.some.inj he).symm⟩
      have hnone := hbefore b hb
      rw [if_pos hb'] at hnone
      cases hnone
    · rintro ⟨before, ref, behind, hrefs, hbefore, hfails, rfl⟩
      exact ⟨before, ref, behind, hrefs, if_pos hfails, fun b hb => if_neg (hbefore b hb)⟩

theorem verifyTree_first_fault_aura :
    let id : Text := List.replicate Json.digitLimit '9'
    let raw := auraCondition id
    let condition : Condition :=
      ⟨raw, [⟨raw, raw, false, none, none, some (.aura ⟨.self, none⟩ ⟨none, id⟩ "up")⟩]⟩
    let nodes : List Node := [
      .action ⟨.ability, "use(Moonfire)", some "Moonfire", some condition, some raw, 0, 1⟩,
      .action ⟨.ability, "use(595)", some "595", none, none, 0, 2⟩]
    walkedReferences nodes = [⟨.ability, "Moonfire"⟩] ++ ⟨.aura, id⟩ :: [⟨.ability, "595"⟩] ∧
      verifyTree .pending nodes = .error .successorTooLong := by
  intro id raw condition nodes
  have hwalked : walkedReferences nodes =
      [⟨.ability, "Moonfire"⟩] ++ ⟨.aura, id⟩ :: [⟨.ability, "595"⟩] := rfl
  have hid : isNumericId id = true := isNumericId_nines (by decide)
  have hbefore : ∀ b ∈ [(⟨.ability, "Moonfire"⟩ : Reference)], ¬ b.Fails .pending := by decide +kernel
  have hfails : Reference.Fails .pending ⟨.aura, id⟩ := by
    refine ⟨?_, .inl rfl⟩
    rw [Reference.IsNumbered, namedId_of_isNumericId hid]
    exact hid
  exact ⟨hwalked, ((verifyTree_first_fault .pending nodes).2.1 _).2
    ⟨_, _, _, hwalked, hbefore, hfails, fault_nines.symm⟩⟩

end BattleScript.Names
