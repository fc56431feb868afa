import BattleScript.Proofs.Text.Occurrence
import BattleScript.Proofs.Text.Trim
import BattleScript.Script.Condition

/-!
Where comparisons are split. The operators are tried in a fixed order, and only the first occurrence of
each is looked at; one at the very start does not count, even if there are others behind it. So the
operator that splits a text may be half of a longer one only where the text starts with that.
-/
namespace BattleScript.Script
open Text

namespace Operator

def Before (a b : Operator) : Prop :=
  [a, b].Sublist all

instance (a b : Operator) : Decidable (Before a b) :=
  inferInstanceAs (Decidable ([a, b].Sublist all))

theorem mem_all (op : Operator) : op ∈ all := by
  cases op <;> decide

theorem nodup_all : all.Nodup := by
  decide

theorem before_trichotomy (a b : Operator) : a = b ∨ a.Before b ∨ b.Before a := by
  cases a <;> cases b <;> decide

theorem symbol_ne_nil (op : Operator) : op.symbol ≠ [] := by
  cases op <;> decide

theorem before_of_mem_symbol {long short : Operator} {c : Char} (hlong : long.symbol.length = 2)
    (hshort : short.symbol = [c]) (hc : c ∈ long.symbol) : long.Before short := by
  cases long <;> cases short <;> cases hshort <;> revert hlong hc <;> decide

end Operator

theorem findSome?_eq_some_iff_sublist {f : α → Option β} {xs : List α} (hxs : xs.Nodup) {b : β} :
    xs.findSome? f = some b ↔ ∃ a ∈ xs, f a = some b ∧ ∀ a', [a', a].Sublist xs → f a' = none := by
  rw [List.findSome?_eq_some_iff]
  constructor
  · rintro ⟨before, a, behind, rfl, ha, hbefore⟩
    have hbehind : a ∉ behind := (List.nodup_cons.1 (List.nodup_append.1 hxs).2.1).1
    refine ⟨a, List.mem_append_right _ (List.mem_cons_self ..), ha, fun a' hsub => ?_⟩
    obtain ⟨us, ws, heq, hus, hws⟩ := List.sublist_append_iff.1 hsub
    cases us with
    | nil =>
      -- What starts with `a` holds no other `a` that `a'` could stand before.
      rw [← List.nil_append ws, ← heq] at hws
      have hmem : a ∈ behind := by
        rcases List.cons_sublist_cons'.1 hws with h | ⟨-, h⟩
        · exact h.subset (List.mem_cons_of_mem _ (List.mem_cons_self ..))
        · exact List.singleton_sublist.1 h
      exact absurd hmem hbehind
    | cons u us =>
      obtain ⟨rfl, -⟩ := List.cons.inj heq
      exact hbefore _ (hus.subset (List.mem_cons_self ..))
  · rintro ⟨a, hmem, ha, hfirst⟩
    obtain ⟨before, behind, rfl⟩ := List.append_of_mem hmem
    refine ⟨before, a, behind, rfl, ha, fun a' ha' => hfirst a' ?_⟩
    have htail : [a].Sublist (a :: behind) := List.singleton_sublist.2 (List.mem_cons_self ..)
    exact (List.singleton_sublist.2 ha').append htail

theorem Operator.exists_first (holds : Operator → Prop) (h : ∃ op, holds op) :
    ∃ op, holds op ∧ ∀ op', op'.Before op → ¬ holds op' := by
  classical
  let pick : Operator → Option Operator := Option.guard fun op => decide (holds op)
  have hpick (op : Operator) (hop : holds op) : pick op = some op :=
    Option.guard_eq_some_iff.2 ⟨rfl, decide_eq_true hop⟩
  have hsome : (all.findSome? pick).isSome := by
    obtain ⟨op, hop⟩ := h
    exact List.findSome?_isSome_iff.2 ⟨op, mem_all op, by rw [hpick op hop]; rfl⟩
  obtain ⟨first, hfirst⟩ := Option.isSome_iff_exists.1 hsome
  obtain ⟨op, -, hop, hbefore⟩ := (findSome?_eq_some_iff_sublist nodup_all).1 hfirst
  refine ⟨op, of_decide_eq_true (Option.guard_eq_some_iff.1 hop).2, fun op' hop' hholds => ?_⟩
  exact Option.some_ne_none op' ((hpick op' hholds).symm.trans (hbefore op' hop'))

def Operator.splitsInto (op : Operator) (t : Text) (i : Nat) : Comparison :=
  ⟨some op, trim (t.take i), some (trim (t.drop (i + op.symbol.length)))⟩

/-- `c` splits `t` at the first operator that has a place in it; without one, `t` is a bare selector. -/
def SplitBy (place : Operator → Nat → Prop) (t : Text) (c : Comparison) : Prop :=
  (c = ⟨none, trim t, none⟩ ∧ ∀ op i, ¬ place op i) ∨
    ∃ op i, place op i ∧ (∀ op', op'.Before op → ∀ j, ¬ place op' j) ∧ c = op.splitsInto t i

/-- The first occurrence of an operator, if it is not at the very start. -/
def FirstPlace (t : Text) (op : Operator) (i : Nat) : Prop :=
  0 < i ∧ FirstAt op.symbol t i

def FirstInside (t : Text) (op : Operator) (i : Nat) : Prop :=
  0 < i ∧ OccursAt op.symbol t i ∧ ∀ j, 0 < j → j < i → ¬ OccursAt op.symbol t j

section
variable {t : Text} {op : Operator} {i : Nat}

theorem FirstPlace.firstInside (h : FirstPlace t op i) : FirstInside t op i :=
  ⟨h.1, h.2.1, fun j _ hj => h.2.2 j hj⟩

theorem FirstInside.firstPlace (h : FirstInside t op i) (hstart : ¬ OccursAt op.symbol t 0) :
    FirstPlace t op i := by
  refine ⟨h.1, h.2.1, fun j hj => ?_⟩
  rcases Nat.eq_zero_or_pos j with rfl | hpos
  · exact hstart
  · exact h.2.2 j hpos hj

theorem FirstPlace.not_start (h : FirstPlace t op i) : ¬ OccursAt op.symbol t 0 :=
  h.2.2 0 h.1

theorem Comparison.splitAt?_of_firstPlace (h : FirstPlace t op i) :
    splitAt? op t = some (op.splitsInto t i) := by
  have hcut := cutAt_of_firstAt h.2
  rw [splitAt?, hcut]
  cases htake : t.take i with
  | nil =>
    -- Nothing in front of the operator would mean that it stands at the start.
    have hfirst := (cutAt_eq_some_iff.1 hcut).2
    rw [htake] at hfirst
    exact absurd hfirst.1 h.not_start
  | cons c left => simp only [Operator.splitsInto, htake]

theorem Comparison.splitAt?_eq_none (h : ∀ i, ¬ FirstPlace t op i) : splitAt? op t = none := by
  rw [splitAt?]
  split
  · rename_i c left right hcut
    have hfirst := (cutAt_eq_some_iff.1 hcut).2
    exact absurd ⟨Nat.succ_pos left.length, hfirst⟩ (h (left.length + 1))
  · rfl

theorem Comparison.exists_firstPlace {c : Comparison} (h : splitAt? op t = some c) :
    ∃ i, FirstPlace t op i ∧ c = op.splitsInto t i := by
  by_cases hplace : ∃ i, FirstPlace t op i
  · obtain ⟨i, hi⟩ := hplace
    rw [splitAt?_of_firstPlace hi] at h
    exact ⟨i, hi, (Option.some.inj h).symm⟩
  · rw [splitAt?_eq_none (not_exists.1 hplace)] at h
    cases h

end

theorem splitBy_firstPlace (t : Text) : SplitBy (FirstPlace t) t (Comparison.ofText t) := by
  cases hfind : Operator.all.findSome? fun op => Comparison.splitAt? op t with
  | none =>
    left
    refine ⟨by rw [Comparison.ofText, hfind]; rfl, fun op i hi => ?_⟩
    have hnone := List.findSome?_eq_none_iff.1 hfind op op.mem_all
    rw [Comparison.splitAt?_of_firstPlace hi] at hnone
    cases hnone
  | some c =>
    right
    obtain ⟨op, -, hop, hbefore⟩ := (findSome?_eq_some_iff_sublist Operator.nodup_all).1 hfind
    obtain ⟨i, hi, rfl⟩ := Comparison.exists_firstPlace hop
    refine ⟨op, i, hi, fun op' hop' j hj => ?_, by rw [Comparison.ofText, hfind]; rfl⟩
    have hnone := hbefore op' hop'
    rw [Comparison.splitAt?_of_firstPlace hj] at hnone
    cases hnone

theorem exists_place_of_operator {t : Text} {op : Operator}
    (h : (Comparison.ofText t).operator = some op) :
    ∃ i, FirstPlace t op i ∧ (∀ op', op'.Before op → ∀ j, ¬ FirstPlace t op' j) ∧
      Comparison.ofText t = op.splitsInto t i := by
  rcases splitBy_firstPlace t with ⟨heq, -⟩ | ⟨op', i, hi, hbefore, heq⟩
  · rw [heq] at h
    cases h
  · rw [heq] at h
    obtain rfl : op' = op := Option.some.inj h
    exact ⟨i, hi, hbefore, heq⟩

/-- A text is split at the first operator, in the order of trying, whose first occurrence is not at the
very start. Going by the occurrences inside the text alone would give the same, exactly if the text does
not start with the operator found that way. -/
theorem splitBy_ofText (t : Text) :
    SplitBy (FirstPlace t) t (Comparison.ofText t) ∧
      (SplitBy (FirstInside t) t (Comparison.ofText t) ↔
        ∀ op i, FirstInside t op i → (∀ op', op'.Before op → ∀ j, ¬ FirstInside t op' j) →
          ¬ OccursAt op.symbol t 0) := by
  have hsplit := splitBy_firstPlace t
  refine ⟨hsplit, fun hdoc op i hi hbefore hstart => ?_, fun hstart => ?_⟩
  · rcases hdoc with ⟨-, hnone⟩ | ⟨op', j, hj, hbefore', heq⟩
    · exact hnone op i hi
    · obtain rfl : op = op' := by
        rcases op.before_trichotomy op' with h | h | h
        · exact h
        · exact absurd hi (hbefore' op h i)
        · exact absurd hj (hbefore op' h j)
      have hop : (Comparison.ofText t).operator = some op := congrArg Comparison.operator heq
      obtain ⟨k, hk, -⟩ := exists_place_of_operator hop
      exact hk.not_start hstart
  · -- Where an operator occurs inside the text, the first such one splits it.
    have hplace (op i) (hi : FirstInside t op i) : ∃ op' i', FirstPlace t op' i' ∧
        ∀ op'', op''.Before op' → ∀ j, ¬ FirstInside t op'' j := by
      obtain ⟨op', ⟨i', hi'⟩, hbefore⟩ :=
        Operator.exists_first (fun op => ∃ i, FirstInside t op i) ⟨op, i, hi⟩
      have hbefore' : ∀ op'', op''.Before op' → ∀ j, ¬ FirstInside t op'' j :=
        fun op'' h j hj => hbefore op'' h ⟨j, hj⟩
      exact ⟨op', i', hi'.firstPlace (hstart op' i' hi' hbefore'), hbefore'⟩
    rcases hsplit with ⟨heq, hnone⟩ | ⟨op, i, hi, hbefore, heq⟩
    · refine .inl ⟨heq, fun op i hi => ?_⟩
      obtain ⟨op', i', hi', -⟩ := hplace op i hi
      exact hnone op' i' hi'
    · refine .inr ⟨op, i, hi.firstInside, ?_, heq⟩
      obtain ⟨op', i', hi', hbefore'⟩ := hplace op i hi.firstInside
      rcases op.before_trichotomy op' with h | h | h
      · exact h ▸ hbefore'
      · exact absurd hi.firstInside (hbefore' op h i)
      · exact absurd hi' (hbefore op' h i')

/-- An operator at the very start keeps the same one further on from splitting. -/
theorem ofText_starting_operator :
    Comparison.ofText "=a=b" = ⟨none, "=a=b", none⟩ ∧ FirstInside "=a=b" .equals 2 ∧
      ¬ SplitBy (FirstInside "=a=b") "=a=b" (Comparison.ofText "=a=b") := by
  have hinside : FirstInside "=a=b" .equals 2 := by
    refine ⟨by decide, by decide, fun j hpos hlt => ?_⟩
    obtain rfl : j = 1 := by omega
    decide
  have heq : Comparison.ofText "=a=b" = ⟨none, "=a=b", none⟩ := by decide +kernel
  refine ⟨heq, hinside, ?_⟩
  rintro (⟨-, hnone⟩ | ⟨op, i, -, -, hsplit⟩)
  · exact hnone .equals 2 hinside
  · rw [heq] at hsplit
    cases hsplit

theorem not_isInfix_trim {p t : Text} (h : ¬ p <:+: t) : ¬ p <:+: trim t := by
  obtain ⟨w, w', -, -, ht⟩ := exists_blank_append_trim t
  intro hp
  apply h
  rw [ht]
  exact hp.trans ⟨w, w', rfl⟩

theorem FirstPlace.eq_append {t : Text} {op : Operator} {i : Nat} (h : FirstPlace t op i) :
    t = t.take i ++ op.symbol ++ t.drop (i + op.symbol.length) :=
  (cutAt_eq_some_iff.1 (cutAt_of_firstAt h.2)).1

theorem FirstPlace.start_of_half {t : Text} {op long : Operator} {i j : Nat} (h : FirstPlace t op i)
    (hbefore : ∀ op', op'.Before op → ∀ j, ¬ FirstPlace t op' j) (hop : op.symbol.length = 1)
    (hlong : long.symbol.length = 2) (hj : OccursAt long.symbol t j) (hji : j ≤ i) (hij : i < j + 2) :
    i = 1 ∧ long.symbol <+: t := by
  obtain ⟨c, hc⟩ := List.length_eq_one_iff.1 hop
  have hfirst : FirstAt [c] t i := hc ▸ h.2
  have hin : i - j < long.symbol.length := by omega
  have hhalf : long.symbol[i - j]? = some c := by
    have hget := hj.getElem? hin
    rw [Nat.add_sub_cancel' hji, occursAt_singleton.1 hfirst.1] at hget
    exact hget.symm
  have hlongFirst : FirstAt long.symbol t j := hfirst.of_mem_occurrence hj hji hhalf
  have hearlier : long.Before op :=
    Operator.before_of_mem_symbol hlong hc (List.mem_of_getElem? hhalf)
  -- The longer operator is tried first, so it can only have been passed over at the start.
  have hzero : j = 0 := by
    by_contra hne
    exact hbefore long hearlier j ⟨Nat.pos_of_ne_zero hne, hlongFirst⟩
  subst hzero
  have hi := h.1
  exact ⟨by omega, occursAt_zero.1 hj⟩

theorem Predicate.not_isInfix_selectorRaw {raw : Text} {op : Operator}
    (h : (Predicate.ofText raw).operator = some op) :
    ¬ op.symbol <:+: (Predicate.ofText raw).selectorRaw := by
  obtain ⟨i, hi, -, heq⟩ := exists_place_of_operator h
  have hselector : (Predicate.ofText raw).selectorRaw = _ := congrArg Comparison.selector heq
  rw [hselector]
  exact not_isInfix_trim (hi.2.not_isInfix_take op.symbol_ne_nil)

/-- A split takes the first occurrence of its operator out of the text and trims the two sides; no
operator tried earlier could have split the text. If a single character splits it inside a longer
operator, the text starts with that one. So the selector of a predicate never holds its operator. -/
theorem ofText_loses_nothing :
    (∀ (t : Text) (op : Operator), (Comparison.ofText t).operator = some op →
      ∃ i rest, 0 < i ∧ t = t.take i ++ op.symbol ++ rest ∧
        (Comparison.ofText t).selector = trim (t.take i) ∧
        (Comparison.ofText t).value = some (trim rest) ∧
        ¬ op.symbol <:+: t.take i ∧
        (∀ op' : Operator, op'.Before op → ∀ j, 0 < j → ¬ FirstAt op'.symbol t j) ∧
        (op.symbol.length = 1 → ∀ long : Operator, long.symbol.length = 2 → ∀ j,
          OccursAt long.symbol t j → j ≤ i → i < j + 2 → i = 1 ∧ long.symbol <+: t)) ∧
      ∀ (raw : Text) (op : Operator), (Predicate.ofText raw).operator = some op →
        ¬ op.symbol <:+: (Predicate.ofText raw).selectorRaw := by
  refine ⟨fun t op h => ?_, fun raw op h => Predicate.not_isInfix_selectorRaw h⟩
  obtain ⟨i, hi, hbefore, heq⟩ := exists_place_of_operator h
  refine ⟨i, t.drop (i + op.symbol.length), hi.1, hi.eq_append, by rw [heq]; rfl, by rw [heq]; rfl,
    hi.2.not_isInfix_take op.symbol_ne_nil, ?_, ?_⟩
  · exact fun op' hop' j hpos hj => hbefore op' hop' j ⟨hpos, hj⟩
  · exact fun hop long hlong j hj hji hij => hi.start_of_half hbefore hop hlong hj hji hij

theorem ofText_loses_nothing_half :
    (Comparison.ofText "!=x").operator = some .equals ∧
      (∃ i, i = 1 ∧ Operator.notEquals.symbol <+: Text.of "!=x" ∧
        (Comparison.ofText "!=x").selector = trim (("!=x" : Text).take i)) ∧
      (Predicate.ofText "!!=x").operator = some .equals ∧
      ¬ Operator.equals.symbol <:+: (Predicate.ofText "!!=x").selectorRaw := by
  have hop : (Comparison.ofText "!=x").operator = some .equals := by decide +kernel
  have hpredicate : (Predicate.ofText "!!=x").operator = some .equals := by decide +kernel
  obtain ⟨i, rest, -, -, hselector, -, hnot, -, hhalf⟩ := ofText_loses_nothing.1 "!=x" _ hop
  have hi : i < 2 := by
    by_contra hle
    have htake : ("!=x" : Text).take 2 <+: ("!=x" : Text).take i :=
      List.take_prefix_take_left (not_lt.1 hle)
    exact hnot (List.IsInfix.trans ⟨['!'], [], rfl⟩ htake.isInfix)
  obtain ⟨hone, hstart⟩ := hhalf rfl .notEquals rfl 0 (by decide) (Nat.zero_le i) hi
  exact ⟨hop, ⟨i, hone, hstart, hselector⟩, hpredicate, ofText_loses_nothing.2 _ _ hpredicate⟩

end BattleScript.Script
