import BattleScript.Proofs.Text.Trim
import BattleScript.Script.Line

/-!
Conditions in brackets. On a single line the condition of an action starts at the first opening bracket
after the first character, and what stands before that bracket, but for blanks, is the command. So a
command and a condition that were cut apart can be put together again and are cut in the same place.
-/
namespace BattleScript.Script.Line
open Text

theorem inBrackets_eq_some_iff {t inside : Text} :
    inBrackets t = some inside ↔ t = '[' :: (inside ++ [']']) ∧ '\n' ∉ inside := by
  constructor
  · intro h
    unfold inBrackets at h
    split at h
    · split at h
      · rename_i r hr
        cases h
        exact ⟨by rw [List.dropLast_append_getLast? _ hr.1], hr.2⟩
      · cases h
    · cases h
  · rintro ⟨rfl, hinside⟩
    have hlast : (inside ++ [']']).getLast? = some ']' := List.getLast?_concat
    have hdrop : (inside ++ [']']).dropLast = inside := List.dropLast_concat
    simp only [inBrackets, hlast, hdrop, hinside, not_false_eq_true, and_self, if_true]

theorem inBrackets_of_head?_ne {t : Text} (h : t.head? ≠ some '[') : inBrackets t = none := by
  unfold inBrackets
  split
  · exact absurd rfl h
  · rfl

theorem inBrackets_trimLeft_blank {w condition : Text} (hw : ∀ c ∈ w, isBlank c)
    (hcondition : '\n' ∉ condition) :
    inBrackets (trimLeft (w ++ '[' :: (condition ++ [']']))) = some condition := by
  rw [trimLeft_append hw, trimLeft_cons (by decide)]
  exact inBrackets_eq_some_iff.2 ⟨rfl, hcondition⟩

theorem inBrackets_trimLeft_append {s : Text} (hs : s ≠ []) (hbracket : '[' ∉ s)
    (hlast : ∀ c ∈ s.getLast?, isBlank c = false) (t : Text) :
    inBrackets (trimLeft (s ++ t)) = none := by
  obtain ⟨w, hw, hsplit⟩ := exists_blank_append_trimLeft s
  apply inBrackets_of_head?_ne
  cases htrim : trimLeft s with
  | nil =>
    rw [htrim, List.append_nil] at hsplit
    have hblank := hw (s.getLast hs) (hsplit ▸ List.getLast_mem hs)
    rw [hlast _ (List.getLast?_eq_some_getLast hs)] at hblank
    cases hblank
  | cons c r =>
    have hc : isBlank c = false := head?_trimLeft s c (by rw [htrim]; rfl)
    rw [htrim] at hsplit
    rw [hsplit, List.append_assoc, trimLeft_append hw, List.cons_append, trimLeft_cons hc]
    intro hhead
    cases hhead
    exact hbracket (hsplit ▸ List.mem_append_right _ (List.mem_cons_self ..))

/-- A text made of a command, of blanks and of a condition in brackets. The command is not empty, has no
opening bracket after its first character and, apart from that character, does not end with a blank. -/
structure EndsInBrackets (t command condition : Text) : Prop where
  nonempty : command ≠ []
  noBracket : '[' ∉ command.tail
  tight : ∀ c ∈ command.tail.getLast?, isBlank c = false
  shape : ∃ w, (∀ c ∈ w, isBlank c) ∧ t = command ++ (w ++ '[' :: (condition ++ [']']))

theorem EndsInBrackets.trimmed_command {t command condition : Text} (h : EndsInBrackets t command condition)
    (ht : Trimmed t) : Trimmed command := by
  obtain ⟨hne, -, htight, w, -, rfl⟩ := h
  obtain ⟨c, r, rfl⟩ := List.exists_cons_of_ne_nil hne
  refine ⟨ht.left, fun d hd => ?_⟩
  cases r with
  | nil =>
    cases hd
    exact ht.left c rfl
  | cons e r => exact htight d (by rwa [List.getLast?_cons_cons] at hd)

theorem not_mem_of_not_mem_brackets {c : Char} {command w condition : Text}
    (h : c ∉ command ++ (w ++ '[' :: (condition ++ [']']))) : c ∉ condition := by
  intro hmem
  apply h
  simp only [List.mem_append, List.mem_cons, hmem, true_or, or_true]

theorem cutCondition_of_endsInBrackets {t command condition : Text} (ht : '\n' ∉ t)
    (h : EndsInBrackets t command condition) : cutCondition t = some (command, condition) := by
  obtain ⟨hne, hbracket, htight, w, hw, rfl⟩ := h
  induction command with
  | nil => exact absurd rfl hne
  | cons c command ih =>
    obtain ⟨hc, hrest⟩ := not_or.1 (mt List.mem_cons.2 ht)
    rw [List.cons_append, cutCondition, if_neg (Ne.symm hc)]
    cases command with
    | nil =>
      rw [List.nil_append, inBrackets_trimLeft_blank hw (not_mem_of_not_mem_brackets hrest)]
    | cons d command =>
      have hnone := inBrackets_trimLeft_append (List.cons_ne_nil d command) hbracket htight
        (w ++ '[' :: (condition ++ [']']))
      have hbracket' : '[' ∉ command := fun hmem => hbracket (List.mem_cons_of_mem _ hmem)
      have htight' : ∀ e ∈ command.getLast?, isBlank e = false :=
        fun e he => htight e (List.mem_getLast?_cons he)
      rw [hnone, ih (List.cons_ne_nil _ _) hbracket' htight' hrest]
      rfl

theorem ne_bracket_of_inBrackets_eq_none {d : Char} {r w condition : Text}
    (hline : '\n' ∉ d :: r ++ (w ++ '[' :: (condition ++ [']'])))
    (hnone : inBrackets (trimLeft (d :: r ++ (w ++ '[' :: (condition ++ [']'])))) = none) :
    d ≠ '[' := by
  rintro rfl
  have hbody : '\n' ∉ r ++ (w ++ '[' :: condition) := by
    intro hmem
    apply hline
    simp only [List.mem_append, List.mem_cons] at hmem ⊢
    tauto
  have hsome := inBrackets_trimLeft_blank (w := []) nofun hbody
  simp only [List.nil_append, List.append_assoc, List.cons_append] at hsome hnone
  rw [hsome] at hnone
  cases hnone

theorem not_blank_of_inBrackets_eq_none {d : Char} {w condition : Text} (hw : ∀ c ∈ w, isBlank c)
    (hline : '\n' ∉ [d] ++ (w ++ '[' :: (condition ++ [']'])))
    (hnone : inBrackets (trimLeft ([d] ++ (w ++ '[' :: (condition ++ [']'])))) = none) :
    isBlank d = false := by
  by_contra hblank
  have hw' : ∀ c ∈ d :: w, isBlank c :=
    List.forall_mem_cons.2 ⟨eq_true_of_ne_false hblank, hw⟩
  have hsome := inBrackets_trimLeft_blank hw' (not_mem_of_not_mem_brackets hline)
  rw [List.cons_append] at hsome
  rw [List.cons_append, List.nil_append, hsome] at hnone
  cases hnone

theorem endsInBrackets_of_cutCondition {t command condition : Text} (ht : '\n' ∉ t)
    (h : cutCondition t = some (command, condition)) : EndsInBrackets t command condition := by
  induction t generalizing command with
  | nil => cases h
  | cons c t ih =>
    obtain ⟨hc, hrest⟩ := not_or.1 (mt List.mem_cons.2 ht)
    rw [cutCondition, if_neg (Ne.symm hc)] at h
    cases hinside : inBrackets (trimLeft t) with
    | some inside =>
      rw [hinside] at h
      cases h
      obtain ⟨hshape, -⟩ := inBrackets_eq_some_iff.1 hinside
      obtain ⟨w, hw, hsplit⟩ := exists_blank_append_trimLeft t
      exact ⟨nofun, nofun, nofun, w, hw, by rw [← hshape, ← hsplit]; rfl⟩
    | none =>
      rw [hinside] at h
      obtain ⟨⟨command', condition'⟩, hcut, hpair⟩ := Option.map_eq_some_iff.1 h
      cases hpair
      obtain ⟨hne, hbracket, htight, w, hw, rfl⟩ := ih hrest hcut
      obtain ⟨d, r, rfl⟩ := List.exists_cons_of_ne_nil hne
      have hd := ne_bracket_of_inBrackets_eq_none hrest hinside
      refine ⟨List.cons_ne_nil _ _, List.not_mem_cons_of_ne_of_not_mem (Ne.symm hd) hbracket, ?_, w, hw,
        rfl⟩
      intro e he
      cases r with
      | nil =>
        cases he
        exact not_blank_of_inBrackets_eq_none hw hrest hinside
      | cons e' r => exact htight e (by rwa [List.tail_cons, List.getLast?_cons_cons] at he)

theorem cutCondition_eq_some_iff {t command condition : Text} (ht : '\n' ∉ t) :
    cutCondition t = some (command, condition) ↔ EndsInBrackets t command condition :=
  ⟨endsInBrackets_of_cutCondition ht, cutCondition_of_endsInBrackets ht⟩

theorem kindOf_of_endsInBrackets {t command condition : Text} (hline : '\n' ∉ t)
    (hcomment : t.head? ≠ some '#') (hhead : ¬ startsWith t "if ")
    (h : EndsInBrackets t command condition) :
    kindOf t = .action (trim command) (some (trim condition)) := by
  have hmem : '[' ∈ t := by
    obtain ⟨w, -, rfl⟩ := h.shape
    exact List.mem_append_right _ (List.mem_append_right _ (List.mem_cons_self ..))
  have hne (s : Text) (hs : '[' ∉ s) : t ≠ s := fun hts => hs (hts ▸ hmem)
  rw [kindOf, if_neg (not_or.2 ⟨hne [] nofun, hcomment⟩), if_neg (hne _ (by decide)), if_neg hhead,
    if_neg (hne _ (by decide)), (cutCondition_eq_some_iff hline).2 h]

end BattleScript.Script.Line
