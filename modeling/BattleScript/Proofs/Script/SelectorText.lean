import BattleScript.Proofs.Script.SelectorShapes

/-!
Selectors as texts. Every selector is written in one way, and reading that gives the selector back, as long
as its parts can be told apart. Reading accepts little else: a line break at the end, the long names of two
properties, and arguments with more colons than a name and an id need.
-/
namespace BattleScript.Script.Selector
open Text

def text : Selector → Text
  | .global subject => subject.word
  | .pet target property => target.text ++ '.' :: property
  | .ability target ref property => target.text ++ '.' :: (memberStep "ability" ref.text ++ property)
  | .aura target ref property => target.text ++ '.' :: (memberStep "aura" ref.text ++ property)

def IsMember (member property : Text) : Prop :=
  ∃ arg rest, Enclosable arg ∧ rest ≠ [] ∧ property = memberStep member arg ++ rest

def Writable : Selector → Prop
  | .global _ => True
  | .pet target property => target.Writable ∧ OnOneLine property ∧
      property ≠ Text.of "speed.fast" ∧ property ≠ Text.of "speed.slow" ∧
      ¬ IsMember "ability" property ∧ ¬ IsMember "aura" property
  | .ability target ref property => target.Writable ∧ ref.Writable ∧ OnOneLine property
  | .aura target ref property => target.Writable ∧ ref.Writable ∧ OnOneLine property

/-- The ways in which a text can differ from that of its selector. -/
inductive Variant (t : Text) : Selector → Prop
  | lineBreak {d : Selector} (h : t.getLast? = some '\n') : Variant t d
  | speed {target : Target} {property : Text} (h : Path t target [] property)
      (hspeed : property = Text.of "speed.fast" ∨ property = Text.of "speed.slow") :
      Variant t (.pet target (propertyAlias property))
  | ability {target : Target} {arg property : Text} (h : Path t target (memberStep "ability" arg) property)
      (hcolons : 2 ≤ arg.count ':') : Variant t (.ability target (NamedId.ofText arg) property)
  | aura {target : Target} {arg property : Text} (h : Path t target (memberStep "aura" arg) property)
      (hcolons : 2 ≤ arg.count ':') : Variant t (.aura target (NamedId.ofText arg) property)

theorem ofText?_cases {t : Text} {d : Selector} (h : ofText? t = some d) :
    ability? t = some d ∨ aura? t = some d ∨
      (ability? t = none ∧ aura? t = none ∧ pet? t = some d) ∨ global? t = some d := by
  unfold ofText? at h
  cases hability : ability? t with
  | some a =>
    rw [hability] at h
    exact .inl h
  | none =>
    cases haura : aura? t with
    | some a =>
      rw [hability, haura] at h
      exact .inr (.inl h)
    | none =>
      rw [hability, haura] at h
      cases hpet : pet? t with
      | some a =>
        rw [hpet] at h
        exact .inr (.inr (.inl ⟨rfl, rfl, h⟩))
      | none =>
        rw [hpet] at h
        exact .inr (.inr (.inr h))

theorem ofText?_of_ability? {t : Text} {d : Selector} (h : ability? t = some d) :
    ofText? t = some d := by
  rw [ofText?, h]
  rfl

theorem ofText?_of_aura? {t : Text} {d : Selector} (h : aura? t = some d) : ofText? t = some d := by
  have hability : ability? t = none := by
    rcases ability?_or_aura?_eq_none t with hnone | hnone
    · exact hnone
    · rw [h] at hnone
      cases hnone
  rw [ofText?, hability, h]
  rfl

theorem ofText?_of_pet? {t : Text} {d : Selector} (hability : ability? t = none)
    (haura : aura? t = none) (h : pet? t = some d) : ofText? t = some d := by
  rw [ofText?, hability, haura, h]
  rfl

theorem path_text {target : Target} {property : Text} (htarget : target.Writable)
    (hproperty : OnOneLine property) (middle : Text) :
    Path (target.text ++ '.' :: (middle ++ property)) target middle property :=
  ⟨htarget, hproperty, .inl rfl⟩

theorem isMember_of_path {t : Text} {target target' : Target} {member arg property property' : Text}
    (hpet : target? t = some (target, '.' :: property)) (harg : Enclosable arg)
    (hmember : Path t target' (memberStep member arg) property') : IsMember member property := by
  obtain ⟨rest, htarget, hlast⟩ := path_iff.1 hmember
  have hrest := (Prod.mk.inj (Option.some.inj (hpet.symm.trans htarget))).2
  obtain ⟨⟨hne, -⟩, hbreak⟩ := lastPart_eq_some_iff.1 hlast
  refine ⟨arg, rest, harg, ?_, (List.cons.inj hrest).2⟩
  rintro rfl
  rcases hbreak with rfl | hnil
  · exact hne rfl
  · exact absurd hnil.symm (List.append_ne_nil_of_right_ne_nil _ (List.cons_ne_nil _ _))

theorem propertyAlias_eq_self {property : Text} (hfast : property ≠ Text.of "speed.fast")
    (hslow : property ≠ Text.of "speed.slow") : propertyAlias property = property := by
  rw [propertyAlias, if_neg hfast, if_neg hslow]

theorem ofText?_text {d : Selector} (h : d.Writable) : ofText? d.text = some d := by
  cases d with
  | global subject => cases subject <;> decide +kernel
  | pet target property =>
    obtain ⟨htarget, hproperty, hfast, hslow, hability, haura⟩ := h
    have hpet : target? (text (.pet target property)) = some (target, '.' :: property) :=
      target?_eq_some_iff.2 ⟨htarget, rfl, fun _ => nofun⟩
    refine ofText?_of_pet? ?_ ?_ ?_
    · rw [Option.eq_none_iff_forall_ne_some]
      intro d hd
      obtain ⟨target', arg, property', harg, hpath, -⟩ := ability?_eq_some_iff.1 hd
      exact hability (isMember_of_path hpet harg hpath)
    · rw [Option.eq_none_iff_forall_ne_some]
      intro d hd
      obtain ⟨target', arg, property', harg, hpath, -⟩ := aura?_eq_some_iff.1 hd
      exact haura (isMember_of_path hpet harg hpath)
    · refine pet?_eq_some_iff.2 ⟨target, property, path_text htarget hproperty [], ?_⟩
      rw [propertyAlias_eq_self hfast hslow]
  | ability target ref property =>
    obtain ⟨htarget, href, hproperty⟩ := h
    refine ofText?_of_ability? (ability?_eq_some_iff.2 ⟨target, ref.text, property, href.enclosable,
      path_text htarget hproperty _, ?_⟩)
    rw [NamedId.ofText_text href]
  | aura target ref property =>
    obtain ⟨htarget, href, hproperty⟩ := h
    refine ofText?_of_aura? (aura?_eq_some_iff.2 ⟨target, ref.text, property, href.enclosable,
      path_text htarget hproperty _, ?_⟩)
    rw [NamedId.ofText_text href]

theorem propertyAlias_cases (property : Text) :
    ((property = Text.of "speed.fast" ∨ property = Text.of "speed.slow") ∧
      (propertyAlias property = Text.of "fast" ∨ propertyAlias property = Text.of "slow")) ∨
    (property ≠ Text.of "speed.fast" ∧ property ≠ Text.of "speed.slow" ∧
      propertyAlias property = property) := by
  unfold propertyAlias
  split_ifs with hfast hslow
  · exact .inl ⟨.inl hfast, .inl rfl⟩
  · exact .inl ⟨.inr hslow, .inr rfl⟩
  · exact .inr ⟨hfast, hslow, rfl⟩

theorem not_isMember_of_not_mem {member property : Text} (h : '(' ∉ property) :
    ¬ IsMember member property := by
  rintro ⟨arg, rest, -, -, rfl⟩
  apply h
  simp only [memberStep, List.mem_append, List.mem_cons, true_or, or_true]

theorem Path.member {t property : Text} {target : Target} {member : Text}
    (h : Path t target [] property) (hmember : IsMember member property) :
    ∃ arg rest, Enclosable arg ∧ Path t target (memberStep member arg) rest := by
  obtain ⟨arg, rest, harg, hne, rfl⟩ := hmember
  have hline : '\n' ∉ rest := fun hmem => h.oneLine.2 (List.mem_append_right _ hmem)
  exact ⟨arg, rest, harg, h.writable, ⟨hne, hline⟩, h.shape⟩

theorem writable_pet {t property : Text} {target : Target} (h : Path t target [] property)
    (hability : ability? t = none) (haura : aura? t = none) :
    (Selector.pet target (propertyAlias property)).Writable := by
  rcases propertyAlias_cases property with ⟨-, hshort⟩ | ⟨hfast, hslow, heq⟩
  · refine ⟨h.writable, ?_⟩
    -- The short names are plain words.
    rcases hshort with hshort | hshort <;> rw [hshort] <;>
      exact ⟨⟨by decide, by decide⟩, by decide, by decide, not_isMember_of_not_mem (by decide),
        not_isMember_of_not_mem (by decide)⟩
  · rw [heq]
    refine ⟨h.writable, h.oneLine, hfast, hslow, fun hmember => ?_, fun hmember => ?_⟩
    · obtain ⟨arg, rest, harg, hpath⟩ := h.member hmember
      rw [ability?_eq_some_iff.2 ⟨target, arg, rest, harg, hpath, rfl⟩] at hability
      cases hability
    · obtain ⟨arg, rest, harg, hpath⟩ := h.member hmember
      rw [aura?_eq_some_iff.2 ⟨target, arg, rest, harg, hpath, rfl⟩] at haura
      cases haura

theorem writable_of_ofText? {t : Text} {d : Selector} (h : ofText? t = some d) : d.Writable := by
  rcases ofText?_cases h with h | h | ⟨hability, haura, h⟩ | h
  · obtain ⟨target, arg, property, harg, hpath, rfl⟩ := ability?_eq_some_iff.1 h
    exact ⟨hpath.writable, NamedId.writable_ofText harg, hpath.oneLine⟩
  · obtain ⟨target, arg, property, harg, hpath, rfl⟩ := aura?_eq_some_iff.1 h
    exact ⟨hpath.writable, NamedId.writable_ofText harg, hpath.oneLine⟩
  · obtain ⟨target, property, hpath, rfl⟩ := pet?_eq_some_iff.1 h
    exact writable_pet hpath hability haura
  · obtain ⟨subject, -, rfl⟩ := global?_eq_some_iff.1 h
    trivial

theorem Path.text_eq_or_break {t arg property : Text} {target : Target} {member : Text}
    (h : Path t target (memberStep member arg) property) (hcolons : arg.count ':' < 2) :
    target.text ++ '.' :: (memberStep member (NamedId.ofText arg).text ++ property) = t ∨
      t.getLast? = some '\n' := by
  rw [NamedId.text_ofText hcolons]
  exact h.shape.eq_or_getLast?.imp_left Eq.symm

theorem text_eq_or_variant {t : Text} {d : Selector} (h : ofText? t = some d) :
    d.text = t ∨ Variant t d := by
  rcases ofText?_cases h with h | h | ⟨-, -, h⟩ | h
  · obtain ⟨target, arg, property, -, hpath, rfl⟩ := ability?_eq_some_iff.1 h
    rcases Nat.lt_or_ge (arg.count ':') 2 with hcolons | hcolons
    · exact (hpath.text_eq_or_break hcolons).imp_right .lineBreak
    · exact .inr (.ability hpath hcolons)
  · obtain ⟨target, arg, property, -, hpath, rfl⟩ := aura?_eq_some_iff.1 h
    rcases Nat.lt_or_ge (arg.count ':') 2 with hcolons | hcolons
    · exact (hpath.text_eq_or_break hcolons).imp_right .lineBreak
    · exact .inr (.aura hpath hcolons)
  · obtain ⟨target, property, hpath, rfl⟩ := pet?_eq_some_iff.1 h
    rcases propertyAlias_cases property with ⟨hspeed, -⟩ | ⟨-, -, heq⟩
    · exact .inr (.speed hpath hspeed)
    · rw [heq]
      exact hpath.shape.eq_or_getLast?.imp Eq.symm .lineBreak
  · obtain ⟨subject, hword, rfl⟩ := global?_eq_some_iff.1 h
    exact hword.eq_or_getLast?.imp Eq.symm .lineBreak

/-- What was read can be written and is read again, and its text is the one it was read from, or a variant
of that. Every selector whose parts can be told apart is read from its text. No text is both an ability and
an aura. -/
theorem text_reads_back :
    (∀ t d, ofText? t = some d → ofText? d.text = some d ∧ (d.text = t ∨ Variant t d)) ∧
      (∀ d : Selector, d.Writable → ofText? d.text = some d) ∧
      ∀ t, ability? t = none ∨ aura? t = none :=
  ⟨fun _ _ h => ⟨ofText?_text (writable_of_ofText? h), text_eq_or_variant h⟩,
    fun _ h => ofText?_text h, ability?_or_aura?_eq_none⟩

theorem text_reads_back_edges :
    ofText? "self(#2).ability(a:b:c).usable\n" =
        some (.ability ⟨.self, some "#2"⟩ ⟨some "a", "b"⟩ "usable") ∧
      ofText? "self(#2).ability(a:b).usable" =
        some (.ability ⟨.self, some "#2"⟩ ⟨some "a", "b"⟩ "usable") ∧
      ofText? "enemy.ability().x" = some (.pet ⟨.enemy, none⟩ "ability().x") := by
  have hread : ofText? "self(#2).ability(a:b:c).usable\n" =
      some (.ability ⟨.self, some "#2"⟩ ⟨some "a", "b"⟩ "usable") := by decide +kernel
  have hability : ¬ IsMember "ability" "ability().x" := by
    rintro ⟨arg, rest, ⟨hne, hclose⟩, -, heq⟩
    obtain ⟨c, r, rfl⟩ := List.exists_cons_of_ne_nil hne
    have hc : some ')' = some c := congrArg (fun p : Text => p[8]?) heq
    cases hc
    exact hclose (List.mem_cons_self ..)
  have haura : ¬ IsMember "aura" "ability().x" := by
    rintro ⟨arg, rest, -, -, heq⟩
    have hletter : some 'b' = some 'u' := congrArg (fun p : Text => p[1]?) heq
    exact absurd hletter (by decide)
  have hwritable : (Selector.pet ⟨.enemy, none⟩ "ability().x").Writable :=
    ⟨nofun, ⟨by decide, by decide⟩, by decide, by decide, hability, haura⟩
  exact ⟨hread, (text_reads_back.1 _ _ hread).1, text_reads_back.2.1 _ hwritable⟩

end BattleScript.Script.Selector
