import Mathlib.Order.Bounds.Basic
import Mathlib.Order.Nat
import BattleScript.Proofs.Script.SelectorShapes

/-!
The argument of an action. It stands behind the first parenthesis that is closed, but not at once, and goes
up to the next one that closes. So parentheses that open inside it are part of it, and empty pairs in front
of it are passed over.
-/
namespace BattleScript.Script
open Text

/-- The parenthesis that opens at position `p` is not closed at once, but later. -/
def OpensArgument (a : Text) (p : Nat) : Prop :=
  a[p]? = some '(' ∧ (∃ c, a[p + 1]? = some c ∧ c ≠ ')') ∧ ∃ q, p + 1 < q ∧ a[q]? = some ')'

section
variable {a t rest before : Text} {c : Char} {p : Nat}

theorem opensArgument_zero :
    OpensArgument (c :: a) 0 ↔ c = '(' ∧ ∃ t rest, untilClose a = some (t, rest) := by
  constructor
  · rintro ⟨hopen, ⟨d, hnext, hd⟩, q, hq, hclose⟩
    obtain ⟨k, rfl⟩ : ∃ k, q = k + 1 := ⟨q - 1, by omega⟩
    rw [List.getElem?_cons_succ] at hclose
    obtain ⟨t, rest, rfl, ht⟩ := List.eq_append_cons_of_mem (List.mem_of_getElem? hclose)
    refine ⟨Option.some.inj hopen, t, rest, untilClose_eq_some_iff.2 ⟨⟨?_, ht⟩, rfl⟩⟩
    rintro rfl
    exact hd (Option.some.inj hnext).symm
  · rintro ⟨rfl, t, rest, hclose⟩
    obtain ⟨⟨hne, ht⟩, rfl⟩ := untilClose_eq_some_iff.1 hclose
    obtain ⟨d, t, rfl⟩ := List.exists_cons_of_ne_nil hne
    refine ⟨rfl, ⟨d, rfl, fun hd => ht (hd ▸ List.mem_cons_self ..)⟩, (d :: t).length + 1, ?_, ?_⟩
    · exact Nat.succ_lt_succ (Nat.succ_pos t.length)
    · rw [List.getElem?_cons_succ, List.getElem?_append_right (le_refl _), Nat.sub_self]
      rfl

theorem opensArgument_cons_succ : OpensArgument (c :: a) (p + 1) ↔ OpensArgument a p := by
  constructor
  · rintro ⟨hopen, hnext, q, hq, hclose⟩
    obtain ⟨k, rfl⟩ : ∃ k, q = k + 1 := ⟨q - 1, by omega⟩
    exact ⟨hopen, hnext, k, Nat.lt_of_succ_lt_succ hq, hclose⟩
  · rintro ⟨hopen, hnext, q, hq, hclose⟩
    exact ⟨hopen, hnext, q + 1, Nat.succ_lt_succ hq, hclose⟩

theorem opensArgument_iff : OpensArgument a p ↔
    ∃ before t rest, a = before ++ '(' :: (t ++ ')' :: rest) ∧ Enclosable t ∧ before.length = p := by
  induction a generalizing p with
  | nil =>
    constructor
    · rintro ⟨hopen, -⟩
      cases hopen
    · rintro ⟨before, t, rest, heq, -, -⟩
      exact absurd heq.symm (List.append_ne_nil_of_right_ne_nil _ (List.cons_ne_nil _ _))
  | cons c a ih =>
    cases p with
    | zero =>
      rw [opensArgument_zero]
      constructor
      · rintro ⟨rfl, t, rest, hclose⟩
        obtain ⟨ht, rfl⟩ := untilClose_eq_some_iff.1 hclose
        exact ⟨[], t, rest, rfl, ht, rfl⟩
      · rintro ⟨before, t, rest, heq, ht, hbefore⟩
        obtain rfl := List.length_eq_zero_iff.1 hbefore
        obtain ⟨rfl, rfl⟩ := List.cons.inj heq
        exact ⟨rfl, t, rest, untilClose_eq_some_iff.2 ⟨ht, rfl⟩⟩
    | succ p =>
      rw [opensArgument_cons_succ, ih]
      constructor
      · rintro ⟨before, t, rest, rfl, ht, rfl⟩
        exact ⟨c :: before, t, rest, rfl, ht, rfl⟩
      · rintro ⟨before, t, rest, heq, ht, hbefore⟩
        obtain ⟨d, before, rfl⟩ := List.exists_cons_of_length_eq_add_one hbefore
        obtain ⟨rfl, rfl⟩ := List.cons.inj heq
        exact ⟨before, t, rest, rfl, ht, Nat.succ.inj hbefore⟩

theorem arguments_enclosed (ht : Enclosable t) (rest : Text) :
    arguments ('(' :: (t ++ ')' :: rest)) = some t := by
  rw [arguments, if_pos rfl, untilClose_eq_some_iff.2 ⟨ht, rfl⟩]

theorem arguments_cons_of_not_opens (h : ¬ OpensArgument (c :: a) 0) :
    arguments (c :: a) = arguments a := by
  rw [arguments]
  split_ifs with hc
  · cases hclose : untilClose a with
    | none => rfl
    | some cut => exact absurd (opensArgument_zero.2 ⟨hc, cut.1, cut.2, hclose⟩) h
  · rfl

theorem arguments_append_of_not_opens (h : ∀ p < before.length, ¬ OpensArgument (before ++ a) p) :
    arguments (before ++ a) = arguments a := by
  induction before with
  | nil => rfl
  | cons c before ih =>
    have hrest : ∀ p < before.length, ¬ OpensArgument (before ++ a) p :=
      fun p hp hopen => h (p + 1) (Nat.succ_lt_succ hp) (opensArgument_cons_succ.2 hopen)
    exact (arguments_cons_of_not_opens (h 0 (Nat.succ_pos _))).trans (ih hrest)

theorem arguments_of_isLeast (h : IsLeast {p | OpensArgument a p} p) :
    ∃ before t rest, a = before ++ '(' :: (t ++ ')' :: rest) ∧ Enclosable t ∧ before.length = p ∧
      arguments a = some t := by
  obtain ⟨before, t, rest, rfl, ht, rfl⟩ := opensArgument_iff.1 h.1
  refine ⟨before, t, rest, rfl, ht, rfl, ?_⟩
  rw [arguments_append_of_not_opens fun p hp hopen => Nat.not_le.2 hp (h.2 hopen)]
  exact arguments_enclosed ht rest

theorem arguments_of_not_opens (h : ∀ p, ¬ OpensArgument a p) : arguments a = none := by
  have hsearch : arguments (a ++ []) = arguments [] :=
    arguments_append_of_not_opens fun p _ hp => h p (List.append_nil a ▸ hp)
  rwa [List.append_nil] at hsearch

theorem exists_arguments_iff : (∃ t, arguments a = some t) ↔ ∃ p, OpensArgument a p := by
  classical
  constructor
  · rintro ⟨t, h⟩
    by_contra hnone
    rw [arguments_of_not_opens (not_exists.1 hnone)] at h
    cases h
  · intro hopen
    obtain ⟨_, t, -, -, -, -, hfound⟩ := arguments_of_isLeast (Nat.isLeast_find hopen)
    exact ⟨t, hfound⟩

theorem exists_first_of_arguments (h : arguments a = some t) :
    ∃ before rest, a = before ++ '(' :: (t ++ ')' :: rest) ∧ Enclosable t ∧
      IsLeast {p | OpensArgument a p} before.length := by
  classical
  have hfirst := Nat.isLeast_find (exists_arguments_iff.1 ⟨t, h⟩)
  obtain ⟨before, t', rest, heq, ht', hbefore, hfound⟩ := arguments_of_isLeast hfirst
  rw [h] at hfound
  cases hfound
  exact ⟨before, rest, heq, ht', hbefore ▸ hfirst⟩

theorem isLeast_closes (ht : ')' ∉ t) (before rest : Text) :
    IsLeast {q | before.length < q ∧ (before ++ '(' :: (t ++ ')' :: rest))[q]? = some ')'}
      (before.length + 1 + t.length) := by
  have hbehind (k : Nat) : (before ++ '(' :: (t ++ ')' :: rest))[before.length + 1 + k]? =
      (t ++ ')' :: rest)[k]? := by
    have hsub : before.length + 1 + k - before.length = k + 1 := by omega
    rw [List.getElem?_append_right (by omega), hsub, List.getElem?_cons_succ]
  refine ⟨⟨by omega, ?_⟩, fun q ⟨hq, hclose⟩ => ?_⟩
  · rw [hbehind, List.getElem?_append_right (le_refl _), Nat.sub_self]
    rfl
  · by_contra hlt
    obtain ⟨k, rfl⟩ : ∃ k, q = before.length + 1 + k := ⟨q - (before.length + 1), by omega⟩
    rw [hbehind, List.getElem?_append_left (by omega)] at hclose
    exact ht (List.mem_of_getElem? hclose)

theorem drop_take_argument (before t rest : Text) :
    ((before ++ '(' :: (t ++ ')' :: rest)).take (before.length + 1 + t.length)).drop
      (before.length + 1) = t := by
  have hshape : before ++ '(' :: (t ++ ')' :: rest) = before ++ ['('] ++ t ++ ')' :: rest := by
    simp only [List.append_assoc, List.cons_append, List.nil_append]
  have hlength : before.length + 1 = (before ++ ['(']).length := by
    rw [List.length_append, List.length_singleton]
  rw [hshape, hlength, ← List.length_append, List.take_left, List.drop_left]

theorem arguments_eq_some_iff : arguments a = some t ↔
    ∃ p q, IsLeast {p | OpensArgument a p} p ∧ IsLeast {q | p < q ∧ a[q]? = some ')'} q ∧
      t = (a.take q).drop (p + 1) := by
  constructor
  · intro h
    obtain ⟨before, rest, rfl, ht, hfirst⟩ := exists_first_of_arguments h
    exact ⟨_, _, hfirst, isLeast_closes ht.2 before rest, (drop_take_argument before t rest).symm⟩
  · rintro ⟨p, q, hp, hq, rfl⟩
    obtain ⟨before, t, rest, rfl, ht, rfl, hfound⟩ := arguments_of_isLeast hp
    rw [hq.unique (isLeast_closes ht.2 before rest), drop_take_argument, hfound]

end

theorem arguments_empty_pair {w : Text} (hw : '(' ∉ w) (a : Text) :
    arguments (w ++ '(' :: ')' :: a) = arguments a := by
  induction w with
  | nil => rfl
  | cons c w ih =>
    obtain ⟨hc, hw⟩ := not_or.1 (mt List.mem_cons.2 hw)
    rw [List.cons_append, arguments_cons_of_not_opens fun h => hc (opensArgument_zero.1 h).1.symm, ih hw]

theorem arguments_empty_pairs {words : List Text} (hwords : ∀ w ∈ words, '(' ∉ w) (a : Text) :
    arguments (words.flatMap (fun w => w ++ Text.of "()") ++ a) = arguments a := by
  induction words with
  | nil => rfl
  | cons w words ih =>
    obtain ⟨hw, hwords⟩ := List.forall_mem_cons.1 hwords
    rw [List.flatMap_cons, List.append_assoc, List.append_assoc]
    exact (arguments_empty_pair hw _).trans (ih hwords)

/-- An action has an argument exactly if some parenthesis is closed, but not at once. The argument is the
text between the first such parenthesis and the next one that closes; it can be any text but an empty one
or one with a closing parenthesis, and empty pairs in front do not count. -/
theorem arguments_between_parentheses (a : Text) :
    ((∃ t, arguments a = some t) ↔ ∃ p, OpensArgument a p) ∧
    (∀ t, arguments a = some t ↔ ∃ p q, IsLeast {p | OpensArgument a p} p ∧
      IsLeast {q | p < q ∧ a[q]? = some ')'} q ∧ t = (a.take q).drop (p + 1)) ∧
    (∀ t, arguments a = some t → t ≠ [] ∧ ')' ∉ t) ∧
    (∀ t rest, t ≠ [] → ')' ∉ t → arguments ('(' :: (t ++ ')' :: rest)) = some t) ∧
    ∀ words : List Text, (∀ w ∈ words, '(' ∉ w) →
      arguments (words.flatMap (fun w => w ++ Text.of "()") ++ a) = arguments a := by
  refine ⟨exists_arguments_iff, fun t => arguments_eq_some_iff, fun t h => ?_, fun t rest hne hclose => ?_,
    fun words hwords => arguments_empty_pairs hwords a⟩
  · obtain ⟨-, -, -, ht, -⟩ := exists_first_of_arguments h
    exact ht
  · exact arguments_enclosed ⟨hne, hclose⟩ rest

theorem arguments_between_parentheses_nested :
    let a : Text := "(\n(x)y)"
    arguments (List.flatMap (fun w => w ++ Text.of "()") [Text.of "use", []] ++ a) = arguments a ∧
      arguments a = some "\n(x" ∧ Text.of "\n(x" ≠ [] ∧ ')' ∉ Text.of "\n(x" := by
  intro a
  have ha : arguments a = some "\n(x" :=
    (arguments_between_parentheses []).2.2.2.1 "\n(x" "y)" (by decide) (by decide)
  refine ⟨(arguments_between_parentheses a).2.2.2.2 _ (by decide), ha, ?_⟩
  exact (arguments_between_parentheses a).2.2.1 _ ha

end BattleScript.Script
