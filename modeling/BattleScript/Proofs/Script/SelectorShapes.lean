import Mathlib.Data.List.TakeDrop
import Mathlib.Data.List.TakeWhile
import BattleScript.Proofs.Text.Newline
import BattleScript.Script.Selector

/-!
The shapes of selectors. Each reader accepts exactly the texts put together from its parts: a side, a pet in
parentheses, a member with its argument, and a property up to the end of the line. So a text can have one
shape only, but for members, which are properties of their pet as well.
-/
namespace BattleScript.Script
open Text

theorem NamedId.ofText_cases (arg : Text) :
    (':' ∉ arg ∧ NamedId.ofText arg = ⟨none, arg⟩) ∨
      ∃ name id rest, ':' ∉ name ∧ ':' ∉ id ∧ (rest = [] ∨ ∃ r, rest = ':' :: r) ∧
        arg = name ++ ':' :: (id ++ rest) ∧ NamedId.ofText arg = ⟨some name, id⟩ := by
  by_cases hcolon : ':' ∈ arg
  · right
    obtain ⟨name, behind, rfl, hname⟩ := List.eq_append_cons_of_mem hcolon
    by_cases hsecond : ':' ∈ behind
    · obtain ⟨id, rest, rfl, hid⟩ := List.eq_append_cons_of_mem hsecond
      refine ⟨name, id, ':' :: rest, hname, hid, .inr ⟨rest, rfl⟩, rfl, ?_⟩
      rw [NamedId.ofText, splitOn_append_self hname, splitOn_append_self hid]
    · refine ⟨name, behind, [], hname, hsecond, .inl rfl, by rw [List.append_nil], ?_⟩
      rw [NamedId.ofText, splitOn_append_self hname, splitOn_of_not_mem hsecond]
  · left
    exact ⟨hcolon, by rw [NamedId.ofText, splitOn_of_not_mem hcolon]⟩

def NamedId.Separable (ref : NamedId) : Prop :=
  ':' ∉ ref.id ∧ ∀ name ∈ ref.name, ':' ∉ name

def Enclosable (t : Text) : Prop :=
  t ≠ [] ∧ ')' ∉ t

structure NamedId.Writable (ref : NamedId) : Prop where
  name : ∀ name ∈ ref.name, ':' ∉ name ∧ ')' ∉ name
  id : ':' ∉ ref.id ∧ ')' ∉ ref.id
  nonempty : ref.text ≠ []

namespace NamedId

theorem separable_ofText (arg : Text) : (ofText arg).Separable := by
  rcases ofText_cases arg with ⟨hcolon, heq⟩ | ⟨name, id, rest, hname, hid, -, -, heq⟩
  · rw [heq]
    exact ⟨hcolon, nofun⟩
  · rw [heq]
    refine ⟨hid, ?_⟩
    rintro _ ⟨⟩
    exact hname

theorem ofText_text_iff {ref : NamedId} : ofText ref.text = ref ↔ ref.Separable := by
  constructor
  · intro h
    rw [← h]
    exact separable_ofText ref.text
  · obtain ⟨name, id⟩ := ref
    rintro ⟨hid, hname⟩
    cases name with
    | none => rw [text, ofText, splitOn_of_not_mem hid]
    | some name => rw [text, ofText, splitOn_append_self (hname name rfl), splitOn_of_not_mem hid]

theorem ofText_text {ref : NamedId} (h : ref.Writable) : ofText ref.text = ref :=
  ofText_text_iff.2 ⟨h.id.1, fun name hname => (h.name name hname).1⟩

theorem ofText_text_ofText (arg : Text) : ofText (ofText arg).text = ofText arg :=
  ofText_text_iff.2 (separable_ofText arg)

theorem Writable.enclosable {ref : NamedId} (h : ref.Writable) : Enclosable ref.text := by
  refine ⟨h.nonempty, ?_⟩
  obtain ⟨name, id⟩ := ref
  cases name with
  | none => exact h.id.2
  | some name =>
    rw [text, List.mem_append, List.mem_cons, not_or, not_or]
    exact ⟨(h.name name rfl).2, by decide, h.id.2⟩

theorem writable_ofText {arg : Text} (h : Enclosable arg) : (ofText arg).Writable := by
  rcases ofText_cases arg with ⟨hcolon, heq⟩ | ⟨name, id, rest, hname, hid, -, rfl, heq⟩
  · rw [heq]
    exact ⟨nofun, ⟨hcolon, h.2⟩, h.1⟩
  · have hclose : ')' ∉ name ∧ ')' ∉ id := by
      have hall := h.2
      simp only [List.mem_append, List.mem_cons, not_or] at hall
      exact ⟨hall.1, hall.2.2.1⟩
    rw [heq]
    refine ⟨?_, ⟨hid, hclose.2⟩, List.append_ne_nil_of_right_ne_nil _ (List.cons_ne_nil _ _)⟩
    rintro _ ⟨⟩
    exact ⟨hname, hclose.1⟩

theorem text_ofText {arg : Text} (h : arg.count ':' < 2) : (ofText arg).text = arg := by
  rcases ofText_cases arg with ⟨-, heq⟩ | ⟨name, id, rest, -, -, rfl | ⟨r, rfl⟩, rfl, heq⟩
  · rw [heq]
    rfl
  · rw [heq, List.append_nil]
    rfl
  · rw [List.count_append, List.count_cons_self, List.count_append, List.count_cons_self] at h
    omega

theorem exists_text_ofText {arg : Text} (h : 2 ≤ arg.count ':') :
    ∃ first second rest, ':' ∉ first ∧ ':' ∉ second ∧
      arg = first ++ ':' :: (second ++ ':' :: rest) ∧ (ofText arg).text = first ++ ':' :: second := by
  rcases ofText_cases arg with ⟨hcolon, -⟩ | ⟨name, id, rest, hname, hid, rfl | ⟨r, rfl⟩, rfl, heq⟩
  · rw [List.count_eq_zero.2 hcolon] at h
    omega
  · rw [List.append_nil, List.count_append, List.count_eq_zero.2 hname, List.count_cons_self,
      List.count_eq_zero.2 hid] at h
    omega
  · exact ⟨name, id, r, hname, hid, rfl, by rw [heq]; rfl⟩

theorem head?_text_ofText (arg : Text) : (ofText arg).text.head? = arg.head? := by
  rcases ofText_cases arg with ⟨-, heq⟩ | ⟨name, id, rest, -, -, -, rfl, heq⟩
  · rw [heq]
    rfl
  · rw [heq, text]
    cases name <;> rfl

end NamedId

theorem span_ne_eq_iff {c : Char} {t a b : Text} :
    t.span (· ≠ c) = (a, b) ↔ t = a ++ b ∧ c ∉ a ∧ ∀ d ∈ b.head?, d = c := by
  rw [List.span_eq_takeWhile_dropWhile]
  constructor
  · intro h
    cases h
    refine ⟨List.takeWhile_append_dropWhile.symm, fun hc => ?_, fun d hd => ?_⟩
    · have hpass := List.mem_takeWhile_imp hc
      exact of_decide_eq_true hpass rfl
    · have hstop := List.head?_dropWhile_not (fun x => decide (x ≠ c)) t
      rw [Option.mem_def.1 hd] at hstop
      exact of_not_not (of_decide_eq_false hstop)
  · rintro ⟨rfl, ha, hb⟩
    have hpass : ∀ d ∈ a, decide (d ≠ c) = true :=
      fun d hd => decide_eq_true fun h => ha (h ▸ hd)
    rw [List.takeWhile_append_of_pos hpass, List.dropWhile_append_of_pos hpass]
    cases b with
    | nil => rw [List.takeWhile_nil, List.dropWhile_nil, List.append_nil]
    | cons d b =>
      obtain rfl : d = c := hb d rfl
      rw [List.takeWhile_cons_of_neg (by simp), List.dropWhile_cons_of_neg (by simp), List.append_nil]

theorem untilClose_eq_some_iff {t inside rest : Text} :
    untilClose t = some (inside, rest) ↔ Enclosable inside ∧ t = inside ++ ')' :: rest := by
  constructor
  · intro h
    unfold untilClose at h
    split at h
    · rename_i hspan
      cases h
      obtain ⟨heq, hclose, -⟩ := span_ne_eq_iff.1 hspan
      exact ⟨⟨List.cons_ne_nil _ _, hclose⟩, heq⟩
    · cases h
  · rintro ⟨⟨hne, hclose⟩, rfl⟩
    obtain ⟨c, r, rfl⟩ := List.exists_cons_of_ne_nil hne
    have hspan : (c :: r ++ ')' :: rest).span (· ≠ ')') = (c :: r, ')' :: rest) :=
      span_ne_eq_iff.2 ⟨rfl, hclose, fun d hd => (Option.some.inj hd).symm⟩
    rw [untilClose, hspan]
    rfl

def OnOneLine (t : Text) : Prop :=
  t ≠ [] ∧ '\n' ∉ t

def UpToBreak (t s : Text) : Prop :=
  t = s ∨ t = s ++ ['\n']

theorem upToBreak_append_iff {t p s : Text} :
    UpToBreak t (p ++ s) ↔ ∃ r, t = p ++ r ∧ UpToBreak r s := by
  constructor
  · rintro (rfl | rfl)
    · exact ⟨s, rfl, .inl rfl⟩
    · exact ⟨s ++ ['\n'], List.append_assoc _ _ _, .inr rfl⟩
  · rintro ⟨r, rfl, rfl | rfl⟩
    · exact .inl rfl
    · exact .inr (List.append_assoc _ _ _).symm

theorem UpToBreak.eq_or_getLast? {t s : Text} (h : UpToBreak t s) : t = s ∨ t.getLast? = some '\n' := by
  rcases h with rfl | rfl
  · exact .inl rfl
  · exact .inr List.getLast?_concat

namespace Selector

theorem lastPart_eq_some_iff {t p : Text} : lastPart t = some p ↔ OnOneLine p ∧ UpToBreak t p := by
  constructor
  · intro h
    unfold lastPart at h
    split at h
    · rename_i hspan
      cases h
      obtain ⟨heq, hbreak, -⟩ := span_ne_eq_iff.1 hspan
      exact ⟨⟨List.cons_ne_nil _ _, hbreak⟩, .inl (heq.trans (List.append_nil _))⟩
    · rename_i hspan
      cases h
      obtain ⟨heq, hbreak, -⟩ := span_ne_eq_iff.1 hspan
      exact ⟨⟨List.cons_ne_nil _ _, hbreak⟩, .inr heq⟩
    · cases h
  · rintro ⟨⟨hne, hbreak⟩, h⟩
    obtain ⟨c, r, rfl⟩ := List.exists_cons_of_ne_nil hne
    rcases h with rfl | rfl
    · have hspan : (c :: r).span (· ≠ '\n') = (c :: r, []) :=
        span_ne_eq_iff.2 ⟨(List.append_nil _).symm, hbreak, nofun⟩
      rw [lastPart, hspan]
    · have hspan : (c :: r ++ ['\n']).span (· ≠ '\n') = (c :: r, ['\n']) :=
        span_ne_eq_iff.2 ⟨rfl, hbreak, fun d hd => (Option.some.inj hd).symm⟩
      rw [lastPart, hspan]
      rfl

end Selector

def Target.text : Target → Text
  | ⟨side, none⟩ => side.word
  | ⟨side, some pet⟩ => side.word ++ '(' :: (pet ++ [')'])

def Target.Writable (target : Target) : Prop :=
  ∀ pet ∈ target.pet, Enclosable pet

theorem Target.word_prefix_text (target : Target) : target.side.word <+: target.text := by
  obtain ⟨side, pet⟩ := target
  cases pet with
  | none => exact List.prefix_rfl
  | some pet => exact List.prefix_append _ _

theorem Side.eq_of_prefix {a b : Side} {t : Text} (ha : a.word <+: t) (hb : b.word <+: t) : a = b := by
  -- The first letters of the words already differ.
  have hhead : a.word.head? = b.word.head? := by
    obtain ⟨r, rfl⟩ := ha
    obtain ⟨r', hr'⟩ := hb
    have hne (side : Side) : side.word ≠ [] := by cases side <;> decide
    rw [← List.head?_append_of_ne_nil a.word (hne a), ← hr', List.head?_append_of_ne_nil b.word (hne b)]
  cases a <;> cases b <;> first | rfl | exact absurd hhead (by decide)

namespace Selector

def targetOf? (side : Side) (t : Text) : Option (Target × Text) :=
  match after? side.word t with
  | some ('(' :: r) => (untilClose r).map fun (which, rest) => (⟨side, some which⟩, rest)
  | some rest => some (⟨side, none⟩, rest)
  | none => none

theorem targetOf?_eq_some_iff {side : Side} {t rest : Text} {target : Target} :
    targetOf? side t = some (target, rest) ↔ target.side = side ∧ target.Writable ∧
      t = target.text ++ rest ∧ (target.pet = none → rest.head? ≠ some '(') := by
  constructor
  · intro h
    unfold targetOf? at h
    split at h
    · rename_i r hafter
      obtain ⟨⟨which, rest'⟩, hclose, heq⟩ := Option.map_eq_some_iff.1 h
      cases heq
      obtain ⟨hwhich, rfl⟩ := untilClose_eq_some_iff.1 hclose
      refine ⟨rfl, fun pet hpet => ?_, ?_, nofun⟩
      · cases hpet
        exact hwhich
      · rw [after?_eq_some_iff.1 hafter]
        simp only [Target.text, List.append_assoc, List.cons_append, List.nil_append]
    · rename_i hopen hafter
      cases h
      refine ⟨rfl, nofun, after?_eq_some_iff.1 hafter, fun _ hhead => ?_⟩
      obtain ⟨r, rfl⟩ := List.head?_eq_some_iff.1 hhead
      exact hopen r rfl
    · cases h
  · obtain ⟨_, pet⟩ := target
    rintro ⟨rfl, hpet, rfl, hopen⟩
    cases pet with
    | none =>
      rw [Target.text, targetOf?, after?_append]
      split
      · rename_i hrest
        cases hrest
        exact absurd rfl (hopen rfl)
      · rename_i hrest
        cases hrest
        rfl
      · rename_i hrest
        cases hrest
    | some pet =>
      have hclose : untilClose (pet ++ ')' :: rest) = some (pet, rest) :=
        untilClose_eq_some_iff.2 ⟨hpet pet rfl, rfl⟩
      simp only [Target.text, List.append_assoc, List.cons_append, List.nil_append, targetOf?,
        after?_append, hclose, Option.map_some]

theorem target?_eq_some_iff {t rest : Text} {target : Target} :
    target? t = some (target, rest) ↔
      target.Writable ∧ t = target.text ++ rest ∧ (target.pet = none → rest.head? ≠ some '(') := by
  constructor
  · intro h
    obtain ⟨side, -, hside⟩ := List.exists_of_findSome?_eq_some h
    exact (targetOf?_eq_some_iff.1 hside).2
  · intro h
    have hside : targetOf? target.side t = some (target, rest) := targetOf?_eq_some_iff.2 ⟨rfl, h⟩
    have hfound : (target? t).isSome := by
      refine List.findSome?_isSome_iff.2 ⟨target.side, by cases target.side <;> decide, ?_⟩
      exact Option.isSome_iff_exists.2 ⟨_, hside⟩
    obtain ⟨⟨target', rest'⟩, hfound⟩ := Option.isSome_iff_exists.1 hfound
    obtain ⟨side', -, hside'⟩ := List.exists_of_findSome?_eq_some hfound
    -- Only one side can have answered.
    have hsame : side' = target.side := by
      obtain ⟨rfl, -, ht, -⟩ := targetOf?_eq_some_iff.1 hside'
      refine Side.eq_of_prefix (t := t) ?_ ?_
      · exact ht ▸ target'.word_prefix_text.trans (List.prefix_append _ _)
      · exact h.2.1 ▸ target.word_prefix_text.trans (List.prefix_append _ _)
    rw [hsame] at hside'
    exact hfound.trans (hside'.symm.trans hside)

/-- The text `t` goes from a pet to one of its properties, with `middle` in between. -/
structure Path (t : Text) (target : Target) (middle property : Text) : Prop where
  writable : target.Writable
  oneLine : OnOneLine property
  shape : UpToBreak t (target.text ++ '.' :: (middle ++ property))

theorem path_iff {t middle property : Text} {target : Target} :
    Path t target middle property ↔
      ∃ rest, target? t = some (target, '.' :: (middle ++ rest)) ∧ lastPart rest = some property := by
  have hassoc (r : Text) : target.text ++ '.' :: (middle ++ r) = target.text ++ '.' :: middle ++ r := by
    rw [List.append_assoc, List.cons_append]
  constructor
  · rintro ⟨htarget, hproperty, hshape⟩
    rw [hassoc, upToBreak_append_iff] at hshape
    obtain ⟨rest, rfl, hrest⟩ := hshape
    refine ⟨rest, target?_eq_some_iff.2 ⟨htarget, (hassoc rest).symm, fun _ => nofun⟩, ?_⟩
    exact lastPart_eq_some_iff.2 ⟨hproperty, hrest⟩
  · rintro ⟨rest, htarget, hrest⟩
    obtain ⟨hwritable, rfl, -⟩ := target?_eq_some_iff.1 htarget
    obtain ⟨hproperty, hbreak⟩ := lastPart_eq_some_iff.1 hrest
    refine ⟨hwritable, hproperty, ?_⟩
    rw [hassoc, hassoc, upToBreak_append_iff]
    exact ⟨rest, rfl, hbreak⟩

def memberStep (member arg : Text) : Text :=
  member ++ '(' :: (arg ++ [')', '.'])

theorem member?_eq_some_iff {member t property : Text} {ref : NamedId} :
    member? member t = some (ref, property) ↔
      ∃ arg rest, Enclosable arg ∧ t = '.' :: (memberStep member arg ++ rest) ∧
        lastPart rest = some property ∧ ref = NamedId.ofText arg := by
  constructor
  · intro h
    unfold member? at h
    split at h
    · rename_i r hafter
      split at h
      · rename_i arg rest hclose
        obtain ⟨p, hlast, heq⟩ := Option.map_eq_some_iff.1 h
        cases heq
        obtain ⟨harg, rfl⟩ := untilClose_eq_some_iff.1 hclose
        refine ⟨arg, rest, harg, ?_, hlast, rfl⟩
        rw [after?_eq_some_iff.1 hafter]
        simp only [memberStep, List.cons_append, List.append_assoc, List.nil_append]
      · cases h
    · cases h
  · rintro ⟨arg, rest, harg, rfl, hlast, rfl⟩
    have hafter : after? ('.' :: member ++ ['(']) ('.' :: (memberStep member arg ++ rest)) =
        some (arg ++ ')' :: '.' :: rest) := by
      apply after?_eq_some_iff.2
      simp only [memberStep, List.cons_append, List.append_assoc, List.nil_append]
    have hclose : untilClose (arg ++ ')' :: '.' :: rest) = some (arg, '.' :: rest) :=
      untilClose_eq_some_iff.2 ⟨harg, rfl⟩
    rw [member?, hafter]
    simp only [hclose, hlast, Option.map_some]

theorem memberShape_eq_some_iff {member t : Text} {make : Target → NamedId → Text → Selector}
    {d : Selector} :
    (match target? t with
      | some (target, rest) =>
        (member? member rest).map fun (ref, property) => make target ref property
      | none => none) = some d ↔
      ∃ target arg property, Enclosable arg ∧ Path t target (memberStep member arg) property ∧
        d = make target (NamedId.ofText arg) property := by
  constructor
  · intro h
    split at h
    · rename_i target _ htarget
      obtain ⟨⟨ref, property⟩, hmember, rfl⟩ := Option.map_eq_some_iff.1 h
      obtain ⟨arg, rest, harg, rfl, hlast, rfl⟩ := member?_eq_some_iff.1 hmember
      exact ⟨target, arg, property, harg, path_iff.2 ⟨rest, htarget, hlast⟩, rfl⟩
    · cases h
  · rintro ⟨target, arg, property, harg, hpath, rfl⟩
    obtain ⟨rest, htarget, hlast⟩ := path_iff.1 hpath
    have hmember : member? member ('.' :: (memberStep member arg ++ rest)) =
        some (NamedId.ofText arg, property) :=
      member?_eq_some_iff.2 ⟨arg, rest, harg, rfl, hlast, rfl⟩
    rw [htarget]
    simp only [hmember, Option.map_some]

theorem ability?_eq_some_iff {t : Text} {d : Selector} :
    ability? t = some d ↔ ∃ target arg property, Enclosable arg ∧
      Path t target (memberStep "ability" arg) property ∧
      d = .ability target (NamedId.ofText arg) property :=
  memberShape_eq_some_iff

theorem aura?_eq_some_iff {t : Text} {d : Selector} :
    aura? t = some d ↔ ∃ target arg property, Enclosable arg ∧
      Path t target (memberStep "aura" arg) property ∧
      d = .aura target (NamedId.ofText arg) property :=
  memberShape_eq_some_iff

theorem pet?_eq_some_iff {t : Text} {d : Selector} :
    pet? t = some d ↔ ∃ target property, Path t target [] property ∧
      d = .pet target (propertyAlias property) := by
  constructor
  · intro h
    unfold pet? at h
    split at h
    · rename_i target rest htarget
      obtain ⟨property, hlast, rfl⟩ := Option.map_eq_some_iff.1 h
      exact ⟨target, property, path_iff.2 ⟨rest, htarget, hlast⟩, rfl⟩
    · cases h
  · rintro ⟨target, property, hpath, rfl⟩
    obtain ⟨rest, htarget, hlast⟩ := path_iff.1 hpath
    rw [pet?, htarget]
    simp only [List.nil_append, hlast, Option.map_some]

theorem Subject.ofWord?_eq_some_iff {t : Text} {subject : Subject} :
    Subject.ofWord? t = some subject ↔ t = subject.word := by
  constructor
  · intro h
    have hfound := List.find?_some h
    exact (of_decide_eq_true hfound).symm
  · rintro rfl
    cases subject <;> decide

theorem global?_eq_some_iff {t : Text} {d : Selector} :
    global? t = some d ↔ ∃ subject : Subject, UpToBreak t subject.word ∧ d = .global subject := by
  constructor
  · intro h
    unfold global? at h
    split at h
    · rename_i word hlast
      obtain ⟨subject, hsubject, rfl⟩ := Option.map_eq_some_iff.1 h
      obtain rfl := Subject.ofWord?_eq_some_iff.1 hsubject
      exact ⟨subject, (lastPart_eq_some_iff.1 hlast).2, rfl⟩
    · cases h
  · rintro ⟨subject, hbreak, rfl⟩
    have hline : OnOneLine subject.word := by cases subject <;> exact ⟨by decide, by decide⟩
    have hlast := lastPart_eq_some_iff.2 ⟨hline, hbreak⟩
    rw [global?, hlast, Option.map_eq_some_iff]
    exact ⟨subject, Subject.ofWord?_eq_some_iff.2 rfl, rfl⟩

theorem ability?_or_aura?_eq_none (t : Text) : ability? t = none ∨ aura? t = none := by
  by_contra hboth
  obtain ⟨hability, haura⟩ := not_or.1 hboth
  obtain ⟨a, hability⟩ := Option.ne_none_iff_exists'.1 hability
  obtain ⟨b, haura⟩ := Option.ne_none_iff_exists'.1 haura
  obtain ⟨_, _, _, -, hability, -⟩ := ability?_eq_some_iff.1 hability
  obtain ⟨_, _, _, -, haura, -⟩ := aura?_eq_some_iff.1 haura
  obtain ⟨_, hability, -⟩ := path_iff.1 hability
  obtain ⟨_, haura, -⟩ := path_iff.1 haura
  -- Both follow the same pet, with `ab` and with `au`.
  have hrest := (Prod.mk.inj (Option.some.inj (hability.symm.trans haura))).2
  have hletter : some 'b' = some 'u' := congrArg (fun r : Text => r[2]?) hrest
  exact absurd hletter (by decide)

end Selector
end BattleScript.Script
