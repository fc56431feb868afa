import BattleScript.Proofs.Names.FirstFault

/-!
Which written names a catalog accepts. A reference is compared with one entry of the catalog: an ability
and a pet with that of their id, an aura with that of the ability after it. From entries of abilities the
part behind the first colon is cut off, while those of pets are taken as they are; a written name has no
colon, so that a pet with a colon in its entry can be referred to by its id only.
-/
namespace BattleScript.Names
open Text Script

/-- The entry that references of a kind and an id are compared with. -/
def Catalog.entryFor? (c : Catalog) : NameKind → Text → Option Text
  | .ability, id => c.abilities.get? id
  | .aura, id => c.abilities.get? (ofNat (Json.decimalValue id + 1))
  | .pet, id => c.pets.get? id

def NameKind.shownName : NameKind → Text → Text
  | .pet, entry => entry
  | _, entry => stripIdSuffix entry

def Catalog.Judges (c : Catalog) (kind : NameKind) (arg : Text) (check : NameCheck) : Prop :=
  ∃ v, verify (.loaded c) kind arg = .ok (some v) ∧ v.check = check

section Verdicts
variable {c : Catalog} {kind : NameKind} {arg id : Text}

theorem resolve_eq_entryFor? (hid : isNumericId id = true)
    (hlookup : ∃ found, (Resolver.loaded c).lookup kind id = .ok found) :
    resolve (.loaded c) kind id = .ok ((c.entryFor? kind id).map kind.shownName) := by
  unfold resolve
  simp only [hid, Bool.not_true, Bool.false_eq_true, if_false]
  cases kind with
  | ability => rfl
  | pet =>
    change Except.ok (c.pets.get? id) = .ok ((c.pets.get? id).map NameKind.pet.shownName)
    cases c.pets.get? id <;> rfl
  | aura =>
    have hnext : auraAbilityId id = .ok (some (ofNat (Json.decimalValue id + 1))) := by
      obtain ⟨next, hnext⟩ := (exists_lookupAura_iff c id).1 hlookup
      unfold auraAbilityId at hnext ⊢
      simp only [hid, Bool.not_true, Bool.false_eq_true, if_false] at hnext ⊢
      split_ifs at hnext ⊢
      rfl
    rw [lookupAura_of_next hnext]
    rfl

theorem verify_eq_entryFor? {provided : Option Text} (hslot : arg.head? ≠ some '#')
    (href : NamedId.ofText arg = ⟨provided, id⟩) (hid : isNumericId id = true)
    (hlookup : ∃ found, (Resolver.loaded c).lookup kind id = .ok found) :
    let found := (c.entryFor? kind id).map kind.shownName
    verify (.loaded c) kind arg =
      .ok (some ⟨kind, arg, id, provided, found, classify provided id found⟩) := by
  rw [verify, if_neg hslot, href]
  dsimp only
  rw [resolve_eq_entryFor? hid hlookup]
  rfl

theorem judges_iff {provided : Option Text} (hslot : arg.head? ≠ some '#')
    (href : NamedId.ofText arg = ⟨provided, id⟩) (hid : isNumericId id = true)
    (hlookup : ∃ found, (Resolver.loaded c).lookup kind id = .ok found) (check : NameCheck) :
    c.Judges kind arg check ↔
      classify provided id ((c.entryFor? kind id).map kind.shownName) = check := by
  rw [Catalog.Judges, verify_eq_entryFor? hslot href hid hlookup]
  simp

theorem classify_of_isNumericId (hid : isNumericId id = true) (name : Text) (entry : Option Text) :
    (classify (some name) id (entry.map kind.shownName) = .agrees ↔
        ∃ e, entry = some e ∧ name = kind.shownName e) ∧
      (classify (some name) id (entry.map kind.shownName) = .mismatch ↔
        ∃ e, entry = some e ∧ name ≠ kind.shownName e) ∧
      (classify (some name) id (entry.map kind.shownName) = .notFound ↔ entry = none) := by
  cases entry with
  | none => simp [classify, hid]
  | some e => by_cases hname : name = kind.shownName e <;> simp [classify, hid, hname]

theorem namedId_of_name {name rest : Text} (hname : ':' ∉ name) (hid : isNumericId id = true)
    (hrest : rest = [] ∨ ∃ r, rest = ':' :: r) :
    NamedId.ofText (name ++ ':' :: (id ++ rest)) = ⟨some name, id⟩ := by
  have hcolon : ':' ∉ id := not_mem_of_isNumericId hid (by decide)
  rw [NamedId.ofText, splitOn_append_self hname]
  rcases hrest with rfl | ⟨r, rfl⟩
  · rw [List.append_nil, splitOn_of_not_mem hcolon]
  · rw [splitOn_append_self hcolon]

theorem isSlot_append_iff (name t : Text) :
    (name ++ ':' :: t).head? = some '#' ↔ name.head? = some '#' := by
  cases name <;> simp

theorem Catalog.Judges.not_slot {check : NameCheck} (h : c.Judges kind arg check) :
    arg.head? ≠ some '#' := by
  obtain ⟨v, hv, -⟩ := h
  intro hslot
  rw [verify, if_pos hslot] at hv
  cases hv

end Verdicts

structure Catalog.AcceptsNames (c : Catalog) (kind : NameKind) (id : Text) : Prop where
  /-- A name in front of the id is compared with the one shown by the entry. -/
  named : ∀ name rest, ':' ∉ name → name.head? ≠ some '#' → (rest = [] ∨ ∃ r, rest = ':' :: r) →
    let arg := name ++ ':' :: (id ++ rest)
    (c.Judges kind arg .agrees ↔ ∃ e, c.entryFor? kind id = some e ∧ name = kind.shownName e) ∧
      (c.Judges kind arg .mismatch ↔ ∃ e, c.entryFor? kind id = some e ∧ name ≠ kind.shownName e) ∧
      (c.Judges kind arg .notFound ↔ c.entryFor? kind id = none)
  /-- The id alone is accepted if there is an entry. -/
  bare : (c.Judges kind id .agrees ↔ ∃ e, c.entryFor? kind id = some e) ∧
    (c.Judges kind id .notFound ↔ c.entryFor? kind id = none)
  /-- An ability or an aura with an entry has exactly one name, unless it would be read as a slot. -/
  one : kind ≠ .pet → ∀ e, c.entryFor? kind id = some e → (kind.shownName e).head? ≠ some '#' →
    ∀ rest, (rest = [] ∨ ∃ r, rest = ':' :: r) →
      ∃! name, ':' ∉ name ∧ c.Judges kind (name ++ ':' :: (id ++ rest)) .agrees
  /-- A pet with a colon in its entry is accepted by its id alone. -/
  colon : kind = .pet → ∀ e, c.entryFor? kind id = some e → ':' ∈ e →
    ∀ arg, (NamedId.ofText arg).id = id → (c.Judges kind arg .agrees ↔ arg = id)

theorem colon_not_mem_shownName {kind : NameKind} (hkind : kind ≠ .pet) (e : Text) :
    ':' ∉ kind.shownName e := by
  have hshown : kind.shownName e = e.takeWhile (· ≠ ':') := by
    cases kind with
    | pet => exact absurd rfl hkind
    | _ => rfl
  intro h
  rw [hshown] at h
  simpa using List.mem_takeWhile_imp h

section Accepted
variable {c : Catalog} {kind : NameKind} {id : Text} (hid : isNumericId id = true)
  (hlookup : ∃ found, (Resolver.loaded c).lookup kind id = .ok found)
include hid hlookup

theorem judges_named {name rest : Text} (hname : ':' ∉ name) (hslot : name.head? ≠ some '#')
    (hrest : rest = [] ∨ ∃ r, rest = ':' :: r) :
    let arg := name ++ ':' :: (id ++ rest)
    (c.Judges kind arg .agrees ↔ ∃ e, c.entryFor? kind id = some e ∧ name = kind.shownName e) ∧
      (c.Judges kind arg .mismatch ↔ ∃ e, c.entryFor? kind id = some e ∧ name ≠ kind.shownName e) ∧
      (c.Judges kind arg .notFound ↔ c.entryFor? kind id = none) := by
  have hjudges := judges_iff (mt (isSlot_append_iff name _).1 hslot)
    (namedId_of_name hname hid hrest) hid hlookup
  simp only [hjudges]
  exact classify_of_isNumericId hid name (c.entryFor? kind id)

theorem judges_bare :
    (c.Judges kind id .agrees ↔ ∃ e, c.entryFor? kind id = some e) ∧
      (c.Judges kind id .notFound ↔ c.entryFor? kind id = none) := by
  have hslot : id.head? ≠ some '#' := fun h =>
    not_mem_of_isNumericId hid (by decide) (List.mem_of_head? h)
  have hjudges := judges_iff hslot (namedId_of_isNumericId hid) hid hlookup
  simp only [hjudges]
  cases c.entryFor? kind id <;> simp [classify, hid]

theorem existsUnique_name (hkind : kind ≠ .pet) {e : Text} (he : c.entryFor? kind id = some e)
    (hslot : (kind.shownName e).head? ≠ some '#') {rest : Text}
    (hrest : rest = [] ∨ ∃ r, rest = ':' :: r) :
    ∃! name, ':' ∉ name ∧ c.Judges kind (name ++ ':' :: (id ++ rest)) .agrees := by
  have hcolon : ':' ∉ kind.shownName e := colon_not_mem_shownName hkind e
  refine ⟨kind.shownName e, ⟨hcolon, ?_⟩, ?_⟩
  · exact (judges_named hid hlookup hcolon hslot hrest).1.2 ⟨e, he, rfl⟩
  · rintro name ⟨hname, hagrees⟩
    have hnoslot : name.head? ≠ some '#' := mt (isSlot_append_iff name _).2 hagrees.not_slot
    obtain ⟨e', he', hshown⟩ := (judges_named hid hlookup hname hnoslot hrest).1.1 hagrees
    rw [he] at he'
    cases he'
    exact hshown

end Accepted

theorem judges_pet_iff {c : Catalog} {id e : Text} (hid : isNumericId id = true)
    (he : c.entryFor? .pet id = some e) (hcolon : ':' ∈ e) {arg : Text}
    (harg : (NamedId.ofText arg).id = id) : c.Judges .pet arg .agrees ↔ arg = id := by
  have hlookup : ∃ found, (Resolver.loaded c).lookup .pet id = .ok found := ⟨_, rfl⟩
  constructor
  · intro hagrees
    rcases NamedId.ofText_cases arg with ⟨-, href⟩ | ⟨name, id', rest, hname, -, hrest, rfl, href⟩
    · rw [href] at harg
      exact harg
    · -- A name in front of the id would have to be the entry, but it has no colon.
      rw [href] at harg
      subst harg
      have hslot : name.head? ≠ some '#' := mt (isSlot_append_iff name _).2 hagrees.not_slot
      obtain ⟨e', he', rfl⟩ := (judges_named hid hlookup hname hslot hrest).1.1 hagrees
      rw [he] at he'
      cases he'
      exact absurd hcolon hname
  · rintro rfl
    exact (judges_bare hid hlookup).1.2 ⟨e, he⟩

theorem verify_of_not_numeric (r : Resolver) (kind : NameKind) {arg : Text}
    (hid : isNumericId (NamedId.ofText arg).id = false) (hslot : arg.head? ≠ some '#') :
    ∃ v, verify r kind arg = .ok (some v) ∧ v.check = .noId := by
  have hnone : resolve r kind (NamedId.ofText arg).id = .ok none := by
    unfold resolve
    simp [hid]
  have hcheck : classify (NamedId.ofText arg).name (NamedId.ofText arg).id none = .noId := by
    simp [classify, hid]
  rw [verify, if_neg hslot]
  dsimp only
  rw [hnone]
  exact ⟨_, rfl, hcheck⟩

/-- Numbers that can be looked up are judged by their entries. Other references have no id for any
resolver, and slots get no verdict at all. -/
theorem verify_accepts_names (c : Catalog) (kind : NameKind) :
    (∀ id, isNumericId id = true → (∃ found, (Resolver.loaded c).lookup kind id = .ok found) →
      c.AcceptsNames kind id) ∧
    ∀ (r : Resolver) (arg : Text), isNumericId (NamedId.ofText arg).id = false →
      (arg.head? ≠ some '#' → ∃ v, verify r kind arg = .ok (some v) ∧ v.check = .noId) ∧
      (arg.head? = some '#' → verify r kind arg = .ok none) := by
  refine ⟨fun id hid hlookup => ?_, fun r arg hid => ⟨verify_of_not_numeric r kind hid, fun hslot => ?_⟩⟩
  · constructor
    case named => exact fun name rest hname hslot hrest => judges_named hid hlookup hname hslot hrest
    case bare => exact judges_bare hid hlookup
    case one =>
      exact fun hkind e he hslot rest hrest => existsUnique_name hid hlookup hkind he hslot hrest
    case colon =>
      rintro rfl e he hcolon arg harg
      exact judges_pet_iff hid he hcolon harg
  · rw [verify, if_pos hslot]

theorem verify_accepts_names_pet :
    let c : Catalog := ⟨NameMap.empty, NameMap.ofList [("39", "Rabbit:39")]⟩
    isNumericId "39" = true ∧ (∃ found, (Resolver.loaded c).lookup .pet "39" = .ok found) ∧
      c.entryFor? .pet "39" = some "Rabbit:39" ∧ c.Judges .pet "Rabbit:39" .mismatch ∧
      ∀ arg, (NamedId.ofText arg).id = "39" → (c.Judges .pet arg .agrees ↔ arg = "39") := by
  intro c
  have hid : isNumericId "39" = true := by decide
  have hlookup : ∃ found, (Resolver.loaded c).lookup .pet "39" = .ok found := ⟨_, rfl⟩
  have he : c.entryFor? .pet "39" = some "Rabbit:39" := by decide +kernel
  have haccepts := (verify_accepts_names c .pet).1 "39" hid hlookup
  have hnamed := haccepts.named "Rabbit" [] (by decide) (by decide) (.inl rfl)
  refine ⟨hid, hlookup, he, ?_, haccepts.colon rfl _ he (by decide)⟩
  exact hnamed.2.1.2 ⟨_, he, by decide⟩

/-- A slot has no number for an id, and yet no verdict tells so. -/
theorem not_judges_slot :
    isNumericId (NamedId.ofText "#2").id = false ∧
      ¬ Catalog.empty.Judges .ability "#2" .noId :=
  ⟨by decide, fun h => h.not_slot (by decide)⟩

end BattleScript.Names
