import Mathlib.Data.List.Basic
import BattleScript.Text.Newline

/-!
Two ways of counting lines. Lines that end at line feeds only are cut once more at each carriage return
inside them when every line end counts, and from there on the two counts differ by as many lines.
-/
namespace BattleScript.Text

section Pieces
variable {sep c : Char}

theorem splitOn_ne_nil (sep : Char) (t : Text) : splitOn sep t ≠ [] := by
  cases t with
  | nil => exact List.cons_ne_nil _ _
  | cons c t =>
    unfold splitOn
    split
    · exact List.cons_ne_nil _ _
    · cases splitOn sep t <;> exact List.cons_ne_nil _ _

theorem splitOn_cons_self (sep : Char) (t : Text) : splitOn sep (sep :: t) = [] :: splitOn sep t :=
  if_pos rfl

theorem splitOn_cons_ne (h : c ≠ sep) (t : Text) : splitOn sep (c :: t) = consHead c (splitOn sep t) :=
  if_neg h

theorem splitOn_of_not_mem {t : Text} (h : sep ∉ t) : splitOn sep t = [t] := by
  induction t with
  | nil => rfl
  | cons c t ih =>
    obtain ⟨hc, ht⟩ := not_or.1 (mt List.mem_cons.2 h)
    rw [splitOn_cons_ne (Ne.symm hc), ih ht]
    rfl

theorem splitOn_append_self {p : Text} (h : sep ∉ p) (t : Text) :
    splitOn sep (p ++ sep :: t) = p :: splitOn sep t := by
  induction p with
  | nil => exact splitOn_cons_self sep t
  | cons c p ih =>
    obtain ⟨hc, hp⟩ := not_or.1 (mt List.mem_cons.2 h)
    rw [List.cons_append, splitOn_cons_ne (Ne.symm hc), ih hp]
    rfl

theorem join_cons_of_ne_nil {ps : List Text} (h : ps ≠ []) (p : Text) :
    join [sep] (p :: ps) = p ++ sep :: join [sep] ps := by
  obtain ⟨q, ps, rfl⟩ := List.exists_cons_of_ne_nil h
  rw [join_cons_cons, List.singleton_append]

theorem splitOn_join {ps : List Text} (h : ∀ p ∈ ps, sep ∉ p) (hne : ps ≠ []) :
    splitOn sep (join [sep] ps) = ps := by
  induction ps with
  | nil => exact absurd rfl hne
  | cons p ps ih =>
    obtain ⟨hp, hps⟩ := List.forall_mem_cons.1 h
    by_cases hrest : ps = []
    · rw [hrest, join_singleton, splitOn_of_not_mem hp]
    · rw [join_cons_of_ne_nil hrest, splitOn_append_self hp, ih hps hrest]

theorem consHead_append {ps : List Text} (h : ps ≠ []) (c : Char) (qs : List Text) :
    consHead c (ps ++ qs) = consHead c ps ++ qs := by
  obtain ⟨p, ps, rfl⟩ := List.exists_cons_of_ne_nil h
  rfl

theorem length_consHead {ps : List Text} (h : ps ≠ []) (c : Char) :
    (consHead c ps).length = ps.length := by
  obtain ⟨p, ps, rfl⟩ := List.exists_cons_of_ne_nil h
  rfl

theorem length_splitOn (sep : Char) (t : Text) : (splitOn sep t).length = t.count sep + 1 := by
  induction t with
  | nil => rfl
  | cons c t ih =>
    by_cases hc : c = sep
    · subst hc
      rw [splitOn_cons_self, List.length_cons, ih, List.count_cons_self]
    · rw [splitOn_cons_ne hc, length_consHead (splitOn_ne_nil sep t), ih, List.count_cons_of_ne hc]

theorem takeWhile_ne_cons (h : c ≠ sep) (t : Text) :
    (c :: t).takeWhile (· ≠ sep) = c :: t.takeWhile (· ≠ sep) :=
  List.takeWhile_cons_of_pos (decide_eq_true h)

theorem head?_splitOn (sep : Char) (t : Text) :
    (splitOn sep t).head? = some (t.takeWhile (· ≠ sep)) := by
  induction t with
  | nil => rfl
  | cons c t ih =>
    by_cases hc : c = sep
    · subst hc
      rw [splitOn_cons_self, List.takeWhile_cons_of_neg (by simp)]
      rfl
    · obtain ⟨ps, hps⟩ := List.head?_eq_some_iff.1 ih
      rw [splitOn_cons_ne hc, hps, takeWhile_ne_cons hc]
      rfl

end Pieces

def dropReturn : Text → Text
  | [] => []
  | ['\r'] => []
  | c :: r => c :: dropReturn r

theorem dropReturn_cons {c : Char} {r : Text} (h : c ≠ '\r' ∨ r ≠ []) :
    dropReturn (c :: r) = c :: dropReturn r := by
  rw [dropReturn]
  rintro rfl rfl
  exact h.elim (absurd rfl) (absurd rfl)

theorem takeWhile_dropReturn (l : Text) :
    (dropReturn l).takeWhile (· ≠ '\r') = l.takeWhile (· ≠ '\r') := by
  induction l with
  | nil => rfl
  | cons c r ih =>
    by_cases hc : c = '\r'
    · subst hc
      cases r with
      | nil => rfl
      | cons d r =>
        rw [dropReturn_cons (.inr (List.cons_ne_nil d r))]
        rfl
    · rw [dropReturn_cons (.inl hc), takeWhile_ne_cons hc, takeWhile_ne_cons hc, ih]

/-- Lines that end at line feeds, cut at every line end. The last one ends with the text, so that a
carriage return at its end is followed by another line. -/
def recut : List Text → List Text
  | [] => []
  | [l] => splitOn '\r' l
  | l :: l' :: ls => splitOn '\r' (dropReturn l) ++ recut (l' :: ls)

theorem recut_nil_cons {ls : List Text} (h : ls ≠ []) : recut ([] :: ls) = [] :: recut ls := by
  obtain ⟨l, ls, rfl⟩ := List.exists_cons_of_ne_nil h
  rfl

theorem recut_consHead {c : Char} (hc : c ≠ '\r') {ls : List Text} (h : ls ≠ []) :
    recut (consHead c ls) = consHead c (recut ls) := by
  match ls, h with
  | [l], _ => exact splitOn_cons_ne hc l
  | l :: l' :: ls, _ =>
    rw [consHead, recut, recut, dropReturn_cons (.inl hc), splitOn_cons_ne hc,
      consHead_append (splitOn_ne_nil '\r' _)]

theorem recut_consHead_return {ls : List Text} (h : ls ≠ []) (hfirst : ls.head? = some [] → ls = [[]]) :
    recut (consHead '\r' ls) = [] :: recut ls := by
  match ls, h with
  | [l], _ => exact splitOn_cons_self '\r' l
  | l :: l' :: ls, _ =>
    have hl : l ≠ [] := by
      rintro rfl
      cases hfirst rfl
    rw [consHead, recut, recut, dropReturn_cons (.inr hl), splitOn_cons_self, List.cons_append]

theorem eq_nil_of_head?_splitOn {sep : Char} {t : Text} (h : (splitOn sep t).head? = some [])
    (hsep : t.head? ≠ some sep) : t = [] := by
  cases t with
  | nil => rfl
  | cons c t =>
    have hc : c ≠ sep := fun hc => hsep (congrArg some hc)
    rw [head?_splitOn, takeWhile_ne_cons hc] at h
    cases h

theorem splitOn_unifyNewlines (t : Text) :
    splitOn '\n' (unifyNewlines t) = recut (splitOn '\n' t) := by
  fun_induction unifyNewlines t with
  | case1 => rfl
  | case2 r ih =>
    have hsplit : splitOn '\n' ('\r' :: '\n' :: r) = ['\r'] :: splitOn '\n' r := rfl
    obtain ⟨l, ls, hr⟩ := List.exists_cons_of_ne_nil (splitOn_ne_nil '\n' r)
    rw [splitOn_cons_self, ih, hsplit, hr]
    rfl
  | case3 c r hpair ih =>
    have hne : splitOn '\n' r ≠ [] := splitOn_ne_nil '\n' r
    by_cases hreturn : c = '\r'
    · subst hreturn
      -- No line feed follows, so the first line of the rest is empty only at the end of the text.
      have hfirst : (splitOn '\n' r).head? = some [] → splitOn '\n' r = [[]] := by
        intro hhead
        have hr : r = [] := eq_nil_of_head?_splitOn hhead fun h => by
          obtain ⟨r', rfl⟩ := List.head?_eq_some_iff.1 h
          exact hpair r' rfl rfl
        rw [hr]
        rfl
      rw [if_pos rfl, splitOn_cons_self, ih, splitOn_cons_ne (by decide),
        recut_consHead_return hne hfirst]
    · rw [if_neg hreturn]
      by_cases hfeed : c = '\n'
      · subst hfeed
        rw [splitOn_cons_self, splitOn_cons_self, ih, recut_nil_cons hne]
      · rw [splitOn_cons_ne hfeed, splitOn_cons_ne hfeed, ih, recut_consHead hreturn hne]

def innerReturns : List Text → Nat
  | [] => 0
  | l :: ls => (dropReturn l).count '\r' + innerReturns ls

theorem head?_recut {ls : List Text} {l : Text} (h : ls.head? = some l) :
    (recut ls).head? = some (l.takeWhile (· ≠ '\r')) := by
  match ls, h with
  | [l], rfl => exact head?_splitOn '\r' l
  | l :: _ :: _, rfl =>
    rw [recut, List.head?_append, head?_splitOn, takeWhile_dropReturn]
    rfl

theorem getElem?_recut {ls : List Text} {k : Nat} {l : Text} (h : ls[k]? = some l) :
    (recut ls)[k + innerReturns (ls.take k)]? = some (l.takeWhile (· ≠ '\r')) := by
  induction k generalizing ls with
  | zero =>
    rw [← List.head?_eq_getElem?] at h
    rw [List.take_zero, ← head?_recut h, List.head?_eq_getElem?]
    rfl
  | succ k ih =>
    match ls, h with
    | first :: next :: ls, h =>
      have hrest : (recut (next :: ls))[k + innerReturns ((next :: ls).take k)]? = _ := ih h
      have hlength : (splitOn '\r' (dropReturn first)).length = (dropReturn first).count '\r' + 1 :=
        length_splitOn _ _
      have hreturns : innerReturns ((first :: next :: ls).take (k + 1)) =
          (dropReturn first).count '\r' + innerReturns ((next :: ls).take k) := rfl
      rw [recut, hreturns, List.getElem?_append_right (by omega), ← hrest]
      congr 1
      omega

end BattleScript.Text
