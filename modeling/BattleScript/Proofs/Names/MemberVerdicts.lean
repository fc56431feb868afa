import BattleScript.Proofs.Names.FirstFault

/-!
Verdicts on the abilities and auras of selectors. A selector keeps the name and the id that stand between
the parentheses of its member, and the check puts them together again. What it finds is what it would find
for the whole text between the parentheses, whatever has been dropped from that.
-/
namespace BattleScript.Names
open Text Script

inductive AsksFor : Selector → NameKind → NamedId → Prop
  | ability (target : Target) (ref : NamedId) (property : Text) :
      AsksFor (.ability target ref property) .ability ref
  | aura (target : Target) (ref : NamedId) (property : Text) :
      AsksFor (.aura target ref property) .aura ref

/-- In the text `t` of a selector, `arg` stands between the parentheses of a member of this kind. -/
def MemberArgument (t : Text) (kind : NameKind) (arg : Text) : Prop :=
  Enclosable arg ∧ ∃ target property, Selector.Path t target (Selector.memberStep kind.word arg) property

def Resolver.Answers (r : Resolver) (ref : Reference) : Prop :=
  ref.arg.head? ≠ some '#' → ref.IsNumbered →
    ∃ found, r.lookup ref.kind (NamedId.ofText ref.arg).id = .ok found

theorem MemberArgument.unique {t arg arg' : Text} {kind : NameKind} (h : MemberArgument t kind arg)
    (h' : MemberArgument t kind arg') : arg = arg' := by
  obtain ⟨harg, target, property, hpath⟩ := h
  obtain ⟨harg', target', property', hpath'⟩ := h'
  obtain ⟨rest, htarget, -⟩ := Selector.path_iff.1 hpath
  obtain ⟨rest', htarget', -⟩ := Selector.path_iff.1 hpath'
  have hstep := (Prod.mk.inj (Option.some.inj (htarget.symm.trans htarget'))).2
  simp only [Selector.memberStep, List.append_assoc, List.cons_append, List.nil_append, List.cons.injEq,
    true_and, List.append_cancel_left_eq] at hstep
  -- Both end at the first parenthesis that closes.
  have hclose := untilClose_eq_some_iff.2 ⟨harg', hstep⟩
  rw [untilClose_eq_some_iff.2 ⟨harg, rfl⟩] at hclose
  exact (Prod.mk.inj (Option.some.inj hclose)).1

theorem AsksFor.exists_memberArgument {t : Text} {d : Selector} {kind : NameKind} {ref : NamedId}
    (h : AsksFor d kind ref) (hread : Selector.ofText? t = some d) :
    ∃ arg, MemberArgument t kind arg ∧ ref = NamedId.ofText arg := by
  rcases Selector.ofText?_cases hread with hd | hd | ⟨-, -, hd⟩ | hd
  · obtain ⟨target, arg, property, harg, hpath, rfl⟩ := Selector.ability?_eq_some_iff.1 hd
    cases h
    exact ⟨arg, ⟨harg, target, property, hpath⟩, rfl⟩
  · obtain ⟨target, arg, property, harg, hpath, rfl⟩ := Selector.aura?_eq_some_iff.1 hd
    cases h
    exact ⟨arg, ⟨harg, target, property, hpath⟩, rfl⟩
  · obtain ⟨_, _, -, rfl⟩ := Selector.pet?_eq_some_iff.1 hd
    cases h
  · obtain ⟨_, -, rfl⟩ := Selector.global?_eq_some_iff.1 hd
    cases h

section Verify
variable {r : Resolver} {kind : NameKind} {arg : Text}

theorem verify_eq_map_text (r : Resolver) (kind : NameKind) (arg : Text) :
    verify r kind arg =
      (verify r kind (NamedId.ofText arg).text).map fun v => v.map fun v => { v with raw := arg } := by
  unfold verify
  rw [NamedId.head?_text_ofText, NamedId.ofText_text_ofText]
  split
  · rfl
  · dsimp only
    cases resolve r kind (NamedId.ofText arg).id <;> rfl

theorem verify_cases {v : Option Verdict} (h : verify r kind arg = .ok v) :
    (arg.head? = some '#' ∧ v = none) ∨ (arg.head? ≠ some '#' ∧ ∃ w, v = some w ∧ w.kind = kind ∧
      w.provided = (NamedId.ofText arg).name ∧ w.id = (NamedId.ofText arg).id) := by
  unfold verify at h
  split at h
  · rename_i hslot
    cases h
    exact .inl ⟨hslot, rfl⟩
  · rename_i hslot
    cases hresolve : resolve r kind (NamedId.ofText arg).id with
    | error e =>
      simp only [hresolve] at h
      cases h
    | ok found =>
      simp only [hresolve] at h
      cases h
      exact .inr ⟨hslot, _, rfl, rfl, rfl, rfl⟩

theorem exists_resolve_iff {id : Text} (hid : isNumericId id = true) :
    (∃ found, resolve r kind id = .ok found) ↔ ∃ found, r.lookup kind id = .ok found := by
  unfold resolve
  simp only [hid, Bool.not_true, Bool.false_eq_true, if_false]
  cases kind with
  | ability => exact exists_map_ok_iff
  | aura => rfl
  | pet => rfl

theorem exists_verify_iff_answers (ref : Reference) :
    (∃ v, verify r ref.kind ref.arg = .ok v) ↔ r.Answers ref := by
  by_cases hcheck : ref.arg.head? = some '#' ∨ ¬ ref.IsNumbered
  · have hanswers : r.Answers ref := fun hslot hid =>
      (hcheck.elim hslot (absurd hid)).elim
    exact iff_of_true (verify_ok_of_not_numbered r hcheck) hanswers
  · obtain ⟨hslot, hid⟩ := not_or.1 hcheck
    have hid : ref.IsNumbered := of_not_not hid
    have hanswers : r.Answers ref ↔ ∃ found, r.lookup ref.kind (NamedId.ofText ref.arg).id = .ok found :=
      ⟨fun h => h hslot hid, fun h _ _ => h⟩
    rw [hanswers, ← exists_resolve_iff hid, verify, if_neg hslot]
    exact exists_map_ok_iff

end Verify

theorem exists_verifySelector_iff (r : Resolver) (d : Option Selector) :
    (∃ vs, verifySelector r d = .ok vs) ↔ ∀ ref ∈ selectorReferences d, r.Answers ref := by
  simp only [← exists_verify_iff_answers, verifySelector_eq]
  exact exists_verifyAll_iff r (selectorReferences d)

theorem filter_kind_toList {r : Resolver} {kind : NameKind} {arg : Text} {v : Option Verdict}
    (h : verify r kind arg = .ok v) (kind' : NameKind) :
    v.toList.filter (fun w => w.kind = kind') = if kind = kind' then v.toList else [] := by
  obtain ⟨-, rfl⟩ | ⟨-, w, rfl, hkind, -⟩ := verify_cases h
  · exact (ite_self []).symm
  · rw [Option.toList_some, List.filter_singleton, hkind]
    by_cases hsame : kind = kind' <;> simp [hsame]

theorem verifyAll_filter_kind {r : Resolver} {refs : List Reference} {vs : List Verdict}
    (h : verifyAll r refs = .ok vs) (kind : NameKind) :
    verifyAll r (refs.filter fun ref => ref.kind = kind) = .ok (vs.filter fun v => v.kind = kind) := by
  induction refs generalizing vs with
  | nil =>
    cases h
    rfl
  | cons ref refs ih =>
    obtain ⟨v, rest, hv, hrest, rfl⟩ := verifyAll_cons_eq_ok_iff.1 h
    rw [List.filter_append, filter_kind_toList hv, List.filter_cons]
    by_cases hkind : ref.kind = kind
    · rw [if_pos (decide_eq_true hkind), if_pos hkind]
      exact verifyAll_cons_eq_ok_iff.2 ⟨v, _, hv, ih hrest, rfl⟩
    · rw [if_neg (mt of_decide_eq_true hkind), if_neg hkind, List.nil_append]
      exact ih hrest

theorem kind_of_mem_targetReferences {target : Target} {x : Reference}
    (h : x ∈ targetReferences target) : x.kind = .pet := by
  unfold targetReferences at h
  split at h
  · split_ifs at h
    · cases h
    · rw [List.mem_singleton.1 h]
  · cases h

theorem filter_targetReferences {kind : NameKind} (hkind : kind ≠ .pet) (target : Target) :
    (targetReferences target).filter (fun x => x.kind = kind) = [] := by
  refine List.filter_eq_nil_iff.2 fun x hx hsame => hkind ?_
  exact (of_decide_eq_true hsame).symm.trans (kind_of_mem_targetReferences hx)

theorem AsksFor.filter_references {d : Selector} {kind : NameKind} {ref : NamedId}
    (h : AsksFor d kind ref) :
    (selectorReferences (some d)).filter (fun x => x.kind = kind) = [⟨kind, ref.text⟩] := by
  cases h with
  | ability target ref property =>
    rw [selectorReferences, List.filter_append, filter_targetReferences (by decide)]
    rfl
  | aura target ref property =>
    rw [selectorReferences, List.filter_append, filter_targetReferences (by decide)]
    rfl

theorem AsksFor.verdicts {r : Resolver} {d : Selector} {kind : NameKind} {ref : NamedId}
    {vs : List Verdict} (h : AsksFor d kind ref) (hvs : verifySelector r (some d) = .ok vs) :
    ∃ v, verify r kind ref.text = .ok v ∧ vs.filter (fun w => w.kind = kind) = v.toList := by
  rw [verifySelector_eq] at hvs
  have hmember := verifyAll_filter_kind hvs kind
  rw [h.filter_references] at hmember
  exact verifyAll_singleton_eq_ok_iff.1 hmember

/-- A name and an id are told apart in their text if no other colon stands in it, and only then. A text
that is read and written again loses a second colon and what is behind it, and nothing else. So the verdict
of a selector on its member is the one on the whole text between the parentheses: it is about the name and
the id that the selector holds, and slots get none. Only a lookup can keep a selector from being checked. -/
theorem verifySelector_rejoins :
    (∀ ref : NamedId, NamedId.ofText ref.text = ref ↔ ':' ∉ ref.id ∧ ∀ name ∈ ref.name, ':' ∉ name) ∧
    (∀ arg : Text, arg.count ':' < 2 → (NamedId.ofText arg).text = arg) ∧
    (∀ arg : Text, 2 ≤ arg.count ':' → ∃ first second rest, ':' ∉ first ∧ ':' ∉ second ∧
      arg = first ++ ':' :: (second ++ ':' :: rest) ∧
      (NamedId.ofText arg).text = first ++ ':' :: second) ∧
    ∀ t d kind ref, Selector.ofText? t = some d → AsksFor d kind ref →
      (∃! arg, MemberArgument t kind arg) ∧
      ∀ arg, MemberArgument t kind arg → ∀ r : Resolver,
        ((∃ vs, verifySelector r (some d) = .ok vs) ↔
          ∀ x ∈ selectorReferences (some d), r.Answers x) ∧
        ∀ vs, verifySelector r (some d) = .ok vs →
          (ref.text.head? = some '#' →
            vs.filter (fun v => v.kind = kind) = [] ∧ verify r kind arg = .ok none) ∧
          (ref.text.head? ≠ some '#' → ∃ v, vs.filter (fun v => v.kind = kind) = [v] ∧
            v.provided = ref.name ∧ v.id = ref.id ∧
            verify r kind arg = .ok (some { v with raw := arg })) := by
  refine ⟨fun _ => NamedId.ofText_text_iff, fun _ => NamedId.text_ofText,
    fun _ => NamedId.exists_text_ofText, fun t d kind ref hread hasks => ?_⟩
  obtain ⟨arg, harg, rfl⟩ := hasks.exists_memberArgument hread
  refine ⟨⟨arg, harg, fun _ h => h.unique harg⟩, fun arg' harg' r => ?_⟩
  obtain rfl := harg'.unique harg
  refine ⟨exists_verifySelector_iff r (some d), fun vs hvs => ?_⟩
  obtain ⟨v, hv, hfilter⟩ := hasks.verdicts hvs
  have hwhole := verify_eq_map_text r kind arg'
  rw [hv] at hwhole
  rcases verify_cases hv with ⟨hslot, rfl⟩ | ⟨hslot, w, rfl, -, hname, hid⟩
  · exact ⟨fun _ => ⟨hfilter, hwhole⟩, fun hno => absurd hslot hno⟩
  · rw [NamedId.ofText_text_ofText] at hname hid
    exact ⟨fun hyes => absurd hyes hslot, fun _ => ⟨w, hfilter, hname, hid, hwhole⟩⟩

theorem verifySelector_rejoins_aura :
    let t : Text := "enemy(Rabbit:39).aura(Moonfire:594:x).exists"
    let d : Selector := .aura ⟨.enemy, some "Rabbit:39"⟩ ⟨some "Moonfire", "594"⟩ "exists"
    let r := Resolver.loaded
      ⟨NameMap.ofList [("595", "Moonfire:595")], NameMap.ofList [("39", "Rabbit")]⟩
    let slot : Selector := .ability ⟨.self, none⟩ ⟨some "#2", "5"⟩ "usable"
    ((NamedId.ofText "Moonfire:594").text = "Moonfire:594" ∧
      ∃ first second rest, Text.of "Moonfire:594:x" = first ++ ':' :: (second ++ ':' :: rest) ∧
        (NamedId.ofText "Moonfire:594:x").text = first ++ ':' :: second) ∧
    (Selector.ofText? t = some d ∧ MemberArgument t .aura "Moonfire:594:x" ∧
      ∃ vs v, verifySelector r (some d) = .ok vs ∧ vs.filter (fun w => w.kind = .aura) = [v] ∧
        v.provided = some "Moonfire" ∧ v.id = "594" ∧
        verify r .aura "Moonfire:594:x" = .ok (some { v with raw := "Moonfire:594:x" })) ∧
    Selector.ofText? "self.ability(#2:5:6).usable" = some slot ∧
      verifySelector .pending (some slot) = .ok [] ∧
      ∃ arg, MemberArgument "self.ability(#2:5:6).usable" .ability arg ∧
        verify .pending .ability arg = .ok none := by
  intro t d r slot
  obtain ⟨-, hkept, hcut, hchecked⟩ := verifySelector_rejoins
  refine ⟨⟨hkept "Moonfire:594" (by decide), ?_⟩, ?_, ?_⟩
  · obtain ⟨first, second, rest, -, -, hshape, htext⟩ := hcut "Moonfire:594:x" (by decide)
    exact ⟨first, second, rest, hshape, htext⟩
  · have hread : Selector.ofText? t = some d := by decide +kernel
    have harg : MemberArgument t .aura "Moonfire:594:x" := by
      refine ⟨⟨by decide, by decide⟩, ⟨.enemy, some "Rabbit:39"⟩, "exists", ?_, ?_, .inl rfl⟩
      · rintro _ ⟨⟩
        exact ⟨by decide, by decide⟩
      · exact ⟨by decide, by decide⟩
    have hvs : verifySelector r (some d) = .ok [
        ⟨.pet, "Rabbit:39", "39", some "Rabbit", some "Rabbit", .agrees⟩,
        ⟨.aura, "Moonfire:594", "594", some "Moonfire", some "Moonfire", .agrees⟩] := by decide +kernel
    have haura := ((hchecked t d .aura _ hread (.aura _ _ _)).2 _ harg r).2 _ hvs
    obtain ⟨v, hfilter, hname, hid, hwhole⟩ := haura.2 (by decide)
    exact ⟨hread, harg, _, v, hvs, hfilter, hname, hid, hwhole⟩
  · have hread : Selector.ofText? "self.ability(#2:5:6).usable" = some slot := by decide +kernel
    have hvs : verifySelector .pending (some slot) = .ok [] := by decide +kernel
    obtain ⟨⟨arg, harg, -⟩, hslot⟩ := hchecked _ slot .ability _ hread (.ability _ _ _)
    exact ⟨hread, hvs, arg, harg, (((hslot arg harg .pending).2 _ hvs).1 (by decide)).2⟩

end BattleScript.Names
