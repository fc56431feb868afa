import Mathlib.Order.Nat
import BattleScript.Text.Basic

/-!
Occurrences of one text in another. Cutting a text at a separator cuts it at the first occurrence, and
fails only where there is none.
-/
namespace BattleScript.Text

def OccursAt (p t : Text) (i : Nat) : Prop :=
  p <+: t.drop i

/-- `p` stands in `t` at position `i` and at none before. -/
def FirstAt (p t : Text) (i : Nat) : Prop :=
  OccursAt p t i ∧ ∀ j < i, ¬ OccursAt p t j

instance (p t : Text) : DecidablePred (OccursAt p t) :=
  fun i => inferInstanceAs (Decidable (p <+: t.drop i))

instance (p t : Text) : DecidablePred (FirstAt p t) :=
  fun i => inferInstanceAs (Decidable (OccursAt p t i ∧ ∀ j < i, ¬ OccursAt p t j))

section
variable {p t : Text} {c : Char} {i j : Nat}

theorem occursAt_zero : OccursAt p t 0 ↔ p <+: t := by
  rw [OccursAt, List.drop_zero]

theorem occursAt_cons_succ : OccursAt p (c :: t) (i + 1) ↔ OccursAt p t i := by
  rw [OccursAt, List.drop_succ_cons, OccursAt]

theorem occursAt_append (before rest : Text) : OccursAt p (before ++ p ++ rest) before.length := by
  rw [OccursAt, List.append_assoc, List.drop_left]
  exact List.prefix_append p rest

theorem OccursAt.getElem? (h : OccursAt p t i) {k : Nat} (hk : k < p.length) :
    t[i + k]? = p[k]? := by
  obtain ⟨rest, hrest⟩ := h
  rw [← List.getElem?_drop, ← hrest, List.getElem?_append_left hk]

theorem occursAt_singleton : OccursAt [c] t i ↔ t[i]? = some c := by
  constructor
  · intro h
    exact h.getElem? (k := 0) Nat.zero_lt_one
  · intro h
    have hi : i < t.length := (List.getElem?_eq_some_iff.1 h).1
    rw [List.getElem?_eq_getElem hi, Option.some.injEq] at h
    rw [OccursAt, List.drop_eq_getElem_cons hi, h]
    exact ⟨t.drop (i + 1), rfl⟩

theorem FirstAt.unique (hi : FirstAt p t i) (hj : FirstAt p t j) : i = j := by
  rcases Nat.lt_trichotomy i j with hlt | heq | hlt
  · exact absurd hi.1 (hj.2 i hlt)
  · exact heq
  · exact absurd hj.1 (hi.2 j hlt)

theorem firstAt_zero : FirstAt p t 0 ↔ p <+: t := by
  rw [FirstAt, occursAt_zero]
  exact ⟨And.left, fun h => ⟨h, fun j hj => absurd hj (Nat.not_lt_zero j)⟩⟩

theorem firstAt_cons_succ : FirstAt p (c :: t) (i + 1) ↔ ¬ p <+: c :: t ∧ FirstAt p t i := by
  constructor
  · rintro ⟨hi, hbefore⟩
    refine ⟨fun h => hbefore 0 (Nat.succ_pos i) (occursAt_zero.2 h), occursAt_cons_succ.1 hi, ?_⟩
    intro j hj h
    exact hbefore (j + 1) (Nat.succ_lt_succ hj) (occursAt_cons_succ.2 h)
  · rintro ⟨hzero, hi, hbefore⟩
    refine ⟨occursAt_cons_succ.2 hi, fun j hj h => ?_⟩
    cases j with
    | zero => exact hzero (occursAt_zero.1 h)
    | succ j => exact hbefore j (Nat.lt_of_succ_lt_succ hj) (occursAt_cons_succ.1 h)

theorem FirstAt.of_mem_occurrence (hc : FirstAt [c] t i) (hp : OccursAt p t j) (hj : j ≤ i)
    (hpc : p[i - j]? = some c) : FirstAt p t j := by
  refine ⟨hp, fun j' hlt hp' => ?_⟩
  have hk : i - j < p.length := (List.getElem?_eq_some_iff.1 hpc).1
  have hearlier : OccursAt [c] t (j' + (i - j)) := occursAt_singleton.2 ((hp'.getElem? hk).trans hpc)
  exact hc.2 (j' + (i - j)) (by omega) hearlier

theorem FirstAt.not_isInfix_take (hp : p ≠ []) (h : FirstAt p t i) : ¬ p <:+: t.take i := by
  rintro ⟨before, rest, heq⟩
  have hlen : before.length + p.length + rest.length ≤ i := by
    have htake := List.length_take_le i t
    rw [← heq, List.length_append, List.length_append] at htake
    exact htake
  have hlt : before.length < i := by
    have hpos := List.length_pos_iff.2 hp
    omega
  apply h.2 before.length hlt
  rw [← List.take_append_drop i t, ← heq, List.append_assoc]
  exact occursAt_append before (rest ++ t.drop i)

theorem after?_eq_none_iff : after? p t = none ↔ ¬ p <+: t := by
  rw [Option.eq_none_iff_forall_not_mem]
  constructor
  · rintro h ⟨rest, hrest⟩
    exact h rest (after?_eq_some_iff.2 hrest.symm)
  · intro h rest hrest
    exact h ⟨rest, (after?_eq_some_iff.1 hrest).symm⟩

theorem cutAt_eq_some_iff {before rest : Text} :
    cutAt p t = some (before, rest) ↔ t = before ++ p ++ rest ∧ FirstAt p t before.length := by
  induction t generalizing before with
  | nil =>
    rw [cutAt, Option.map_eq_some_iff]
    constructor
    · rintro ⟨rest', hrest, heq⟩
      cases heq
      have hnil := after?_eq_some_iff.1 hrest
      exact ⟨hnil, firstAt_zero.2 ⟨_, hnil.symm⟩⟩
    · rintro ⟨hnil, -⟩
      rw [List.append_assoc] at hnil
      obtain ⟨rfl, hrest⟩ := List.append_eq_nil_iff.1 hnil.symm
      exact ⟨rest, after?_eq_some_iff.2 hrest.symm, rfl⟩
  | cons c t ih =>
    rw [cutAt]
    cases hafter : after? p (c :: t) with
    | some rest' =>
      have heq := after?_eq_some_iff.1 hafter
      have hzero : FirstAt p (c :: t) 0 := firstAt_zero.2 ⟨rest', heq.symm⟩
      constructor
      · intro h
        cases h
        exact ⟨heq, hzero⟩
      · rintro ⟨hcut, hfirst⟩
        obtain rfl := List.length_eq_zero_iff.1 (hfirst.unique hzero)
        have hrest := List.append_cancel_left (heq.symm.trans hcut)
        rw [hrest]
    | none =>
      have hnone := after?_eq_none_iff.1 hafter
      simp only [Option.map_eq_some_iff, Prod.exists, Prod.mk.injEq]
      constructor
      · rintro ⟨before', rest', hcut, rfl, rfl⟩
        obtain ⟨heq, hfirst⟩ := ih.1 hcut
        exact ⟨congrArg (c :: ·) heq, firstAt_cons_succ.2 ⟨hnone, hfirst⟩⟩
      · rintro ⟨heq, hfirst⟩
        cases before with
        | nil => exact absurd ⟨rest, heq.symm⟩ hnone
        | cons c' before =>
          obtain ⟨rfl, htail⟩ := List.cons.inj heq
          exact ⟨before, rest, ih.2 ⟨htail, (firstAt_cons_succ.1 hfirst).2⟩, rfl, rfl⟩

theorem cutAt_of_firstAt (h : FirstAt p t i) :
    cutAt p t = some (t.take i, t.drop (i + p.length)) := by
  obtain ⟨rest, hrest⟩ := h.1
  have hlen : i ≤ t.length ∨ p = [] := by
    by_contra hno
    obtain ⟨hlt, hp⟩ := not_or.1 hno
    rw [List.drop_eq_nil_of_le (not_le.1 hlt).le] at hrest
    exact hp (List.append_eq_nil_iff.1 hrest).1
  have hi : (t.take i).length = i := by
    rcases hlen with hle | rfl
    · exact List.length_take_of_le hle
    · obtain rfl : i = 0 := h.unique (firstAt_zero.2 List.nil_prefix)
      rfl
  refine cutAt_eq_some_iff.2 ⟨?_, by rw [hi]; exact h⟩
  rw [← List.drop_drop, ← hrest, List.drop_left, List.append_assoc, hrest, List.take_append_drop]

end

end BattleScript.Text
