import BattleScript.Proofs.Script.Brackets

/-!
Where brackets open and close on a line. The condition of an action runs from the first opening bracket
behind the first character to a closing bracket at the end of the line, and that of a head from the first
character that is not blank; all other brackets are part of the text around them or between them.
-/
namespace BattleScript.Script.Line
open Text

/-- The first opening bracket behind the first character is at position `p`. -/
def OpensAt (t : Text) (p : Nat) : Prop :=
  1 ≤ p ∧ t[p]? = some '[' ∧ ∀ q, 1 ≤ q → q < p → t[q]? ≠ some '['

theorem opensAt_append {c : Char} {before : Text} (hbefore : '[' ∉ before) (rest : Text) :
    OpensAt (c :: before ++ '[' :: rest) (before.length + 1) := by
  have hlength : (c :: before).length = before.length + 1 := List.length_cons
  refine ⟨Nat.le_add_left 1 _, ?_, fun q hq hlt hopen => ?_⟩
  · rw [List.getElem?_append_right hlength.le, hlength, Nat.sub_self, List.getElem?_cons_zero]
  · obtain ⟨k, rfl⟩ : ∃ k, q = k + 1 := ⟨q - 1, by omega⟩
    rw [List.cons_append, List.getElem?_cons_succ, List.getElem?_append_left (by omega)] at hopen
    exact hbefore (List.mem_of_getElem? hopen)

theorem EndsInBrackets.exists_opensAt {t command condition : Text}
    (h : EndsInBrackets t command condition) (ht : Trimmed t) :
    ∃ p, OpensAt t p ∧ command = trimRight (t.take p) ∧ condition = (t.drop (p + 1)).dropLast := by
  have hcommand := h.trimmed_command ht
  obtain ⟨hne, hbracket, -, w, hw, rfl⟩ := h
  obtain ⟨c, r, rfl⟩ := List.exists_cons_of_ne_nil hne
  have hbefore : '[' ∉ r ++ w := by
    intro hmem
    rcases List.mem_append.1 hmem with hr | hblank
    · exact hbracket hr
    · exact absurd (hw _ hblank) (by decide)
  have hshape : c :: r ++ (w ++ '[' :: (condition ++ [']'])) =
      c :: (r ++ w) ++ '[' :: (condition ++ [']']) := by
    simp only [List.cons_append, List.append_assoc]
  have htake : (c :: (r ++ w) ++ '[' :: (condition ++ [']'])).take ((r ++ w).length + 1) =
      c :: r ++ w := List.take_left' rfl
  have hdrop : (c :: (r ++ w) ++ '[' :: (condition ++ [']'])).drop ((r ++ w).length + 1 + 1) =
      condition ++ [']'] := by
    rw [List.drop_add_one_eq_tail_drop]
    exact congrArg List.tail List.drop_left
  rw [hshape]
  refine ⟨(r ++ w).length + 1, opensAt_append hbefore _, ?_, ?_⟩
  · rw [htake, trimRight_append hw, trimRight_eq_self hcommand.right]
  · rw [hdrop, List.dropLast_concat]

theorem exists_endsInBrackets {t : Text} (hlast : t.getLast? = some ']') {p : Nat} (hp : 1 ≤ p)
    (hopen : t[p]? = some '[') : ∃ command condition, EndsInBrackets t command condition := by
  cases t with
  | nil => cases hlast
  | cons c r =>
    obtain ⟨k, rfl⟩ : ∃ k, p = k + 1 := ⟨p - 1, by omega⟩
    obtain ⟨before, rest, rfl, hbefore⟩ :=
      List.eq_append_cons_of_mem (List.mem_of_getElem? (List.getElem?_cons_succ.symm.trans hopen))
    -- The line ends with another bracket than the one that opens.
    have hrest : rest.getLast? = some ']' := by
      cases rest with
      | nil =>
        rw [← List.cons_append, List.getLast?_concat] at hlast
        cases hlast
      | cons d rest =>
        rwa [← List.cons_append, List.getLast?_append_of_ne_nil _ (List.cons_ne_nil _ _),
          List.getLast?_cons_cons] at hlast
    obtain ⟨w, hw, hsplit⟩ := exists_trimRight_append_blank before
    refine ⟨c :: trimRight before, rest.dropLast, List.cons_ne_nil _ _, ?_, getLast?_trimRight before,
      w, hw, ?_⟩
    · intro hmem
      apply hbefore
      rw [hsplit]
      exact List.mem_append_left _ hmem
    · rw [List.dropLast_append_getLast? _ hrest, List.cons_append, ← List.append_assoc, ← hsplit]

theorem kindOf_eq_action {t command : Text} {condition : Option Text}
    (h : kindOf t = .action command condition) :
    t ≠ [] ∧ ((cutCondition t = none ∧ command = t ∧ condition = none) ∨
      ∃ before inside, cutCondition t = some (before, inside) ∧ command = trim before ∧
        condition = some (trim inside)) := by
  unfold kindOf at h
  split at h
  · cases h
  rename_i hskip
  refine ⟨fun hnil => hskip (.inl hnil), ?_⟩
  split at h
  · cases h
  split at h
  · cases h
  split at h
  · cases h
  cases hcut : cutCondition t with
  | none =>
    rw [hcut] at h
    cases h
    exact .inl ⟨rfl, rfl, rfl⟩
  | some cut =>
    rw [hcut] at h
    cases h
    exact .inr ⟨cut.1, cut.2, rfl, rfl, rfl⟩

theorem action_brackets {t command : Text} {condition : Option Text} (ht : Trimmed t) (hline : '\n' ∉ t)
    (h : kindOf t = .action command condition) :
    (condition.isSome ↔ t.getLast? = some ']' ∧ ∃ p, 1 ≤ p ∧ t[p]? = some '[') ∧
      (∀ inside ∈ condition, ∃ p, OpensAt t p ∧ command = trimRight (t.take p) ∧
        inside = trim (t.drop (p + 1)).dropLast) ∧
      (condition = none → command = t) ∧ command ≠ [] ∧ Trimmed command ∧
      ∀ inside ∈ condition, Trimmed inside := by
  obtain ⟨hne, ⟨hcut, rfl, rfl⟩ | ⟨before, inside, hcut, rfl, rfl⟩⟩ := kindOf_eq_action h
  · refine ⟨⟨nofun, ?_⟩, nofun, fun _ => rfl, hne, ht, nofun⟩
    rintro ⟨hlast, p, hp, hopen⟩
    obtain ⟨before, inside, hends⟩ := exists_endsInBrackets hlast hp hopen
    rw [cutCondition_of_endsInBrackets hline hends] at hcut
    cases hcut
  · have hends := endsInBrackets_of_cutCondition hline hcut
    have hcommand := hends.trimmed_command ht
    obtain ⟨p, hopen, hbefore, hinside⟩ := hends.exists_opensAt ht
    have hlast : t.getLast? = some ']' := by
      obtain ⟨w, -, rfl⟩ := hends.shape
      simp only [← List.append_assoc, ← List.cons_append, List.getLast?_concat]
    rw [hcommand.trim_eq]
    refine ⟨⟨fun _ => ⟨hlast, p, hopen.1, hopen.2.1⟩, fun _ => rfl⟩, ?_, nofun, hends.nonempty, hcommand,
      ?_⟩
    · rintro _ ⟨⟩
      exact ⟨p, hopen, hbefore, congrArg trim hinside⟩
    · rintro _ ⟨⟩
      exact trimmed_trim inside

theorem inBrackets_eq_ite {t : Text} (hline : '\n' ∉ t) :
    inBrackets t =
      if t.getLast? = some ']' ∧ t.head? = some '[' then some t.tail.dropLast else none := by
  cases t with
  | nil => rfl
  | cons c r =>
    split
    · rename_i h
      obtain ⟨hlast, hhead⟩ := h
      obtain rfl : c = '[' := Option.some.inj hhead
      cases r with
      | nil => cases hlast
      | cons d r =>
        rw [List.getLast?_cons_cons] at hlast
        have hinside : '\n' ∉ (d :: r).dropLast :=
          fun hmem => hline (List.mem_cons_of_mem _ ((List.dropLast_sublist _).subset hmem))
        refine inBrackets_eq_some_iff.2 ⟨?_, hinside⟩
        rw [List.tail_cons, List.dropLast_append_getLast? _ hlast]
    · rename_i hno
      cases hinside : inBrackets (c :: r) with
      | none => rfl
      | some inside =>
        obtain ⟨hshape, -⟩ := inBrackets_eq_some_iff.1 hinside
        rw [hshape, ← List.cons_append] at hno
        exact absurd ⟨List.getLast?_concat, rfl⟩ hno

theorem headCondition_eq_ite {t : Text} (hline : '\n' ∉ t) (h : Text.of "if " <+: t) :
    headCondition t =
      if t.getLast? = some ']' ∧ (trimLeft (t.drop 2)).head? = some '[' then
        some (trim (trimLeft (t.drop 2)).tail.dropLast)
      else none := by
  obtain ⟨r, rfl⟩ := h
  have hrest : trimLeft ((Text.of "if " ++ r).drop 2) = trimLeft r := rfl
  have hcondition : headCondition (Text.of "if " ++ r) = (inBrackets (trimLeft r)).map trim := rfl
  obtain ⟨w, -, hsplit⟩ := exists_blank_append_trimLeft r
  have hinside : '\n' ∉ trimLeft r := by
    intro hmem
    apply hline
    rw [hsplit]
    exact List.mem_append_right _ (List.mem_append_right _ hmem)
  have hlast : (trimLeft r).head? = some '[' →
      (Text.of "if " ++ r).getLast? = (trimLeft r).getLast? := by
    intro hhead
    have hne : trimLeft r ≠ [] := by
      intro hnil
      rw [hnil] at hhead
      cases hhead
    conv_lhs => rw [hsplit]
    rw [← List.append_assoc, List.getLast?_append_of_ne_nil _ hne]
  rw [hcondition, hrest, inBrackets_eq_ite hinside]
  by_cases hhead : (trimLeft r).head? = some '['
  · rw [hlast hhead]
    split <;> rfl
  · simp only [hhead, and_false, if_false, Option.map_none]

theorem kindOf_of_head {t : Text} (h : Text.of "if " <+: t) : kindOf t = .head (headCondition t) := by
  have hstart : startsWith t "if " = true := startsWith_iff.2 h
  obtain ⟨r, rfl⟩ := h
  rw [kindOf, if_neg (by simp [Text.of]), if_neg (by simp [Text.of]), if_pos hstart]

theorem head_brackets {t : Text} (hline : '\n' ∉ t) (h : Text.of "if " <+: t) :
    ∃ condition, kindOf t = .head condition ∧
      (condition.isSome ↔ t.getLast? = some ']' ∧ (trimLeft (t.drop 2)).head? = some '[') ∧
      ∀ inside ∈ condition, inside = trim (trimLeft (t.drop 2)).tail.dropLast ∧ Trimmed inside := by
  refine ⟨_, kindOf_of_head h, ?_⟩
  rw [headCondition_eq_ite hline h]
  split
  · rename_i hbrackets
    refine ⟨⟨fun _ => hbrackets, fun _ => rfl⟩, ?_⟩
    rintro _ ⟨⟩
    exact ⟨rfl, trimmed_trim _⟩
  · rename_i hbrackets
    exact ⟨⟨nofun, fun h => absurd h hbrackets⟩, nofun⟩

/-- A line that starts with `if` and a space is a head. It has a condition exactly if it ends with a
closing bracket and what follows `if` is, but for blanks, an opening one. An action has a condition exactly
if the line ends with a closing bracket and has an opening one behind its first character; the first of
these ends the command. Commands and conditions are trimmed. -/
theorem ofText_bracket_positions (line : Text) (hline : '\n' ∉ line) :
    let t := trim line
    (Text.of "if " <+: t →
      ∃ condition, (ofText line).kind = .head condition ∧
        (condition.isSome ↔ t.getLast? = some ']' ∧ (trimLeft (t.drop 2)).head? = some '[') ∧
        ∀ inside ∈ condition, inside = trim (trimLeft (t.drop 2)).tail.dropLast ∧ Trimmed inside) ∧
      ∀ command condition, (ofText line).kind = .action command condition →
        (condition.isSome ↔ t.getLast? = some ']' ∧ ∃ p, 1 ≤ p ∧ t[p]? = some '[') ∧
        (∀ inside ∈ condition, ∃ p, OpensAt t p ∧ command = trimRight (t.take p) ∧
          inside = trim (t.drop (p + 1)).dropLast) ∧
        (condition = none → command = t) ∧ command ≠ [] ∧ Trimmed command ∧
        ∀ inside ∈ condition, Trimmed inside := by
  intro t
  have hkind : (ofText line).kind = kindOf t := congrArg kindOf (trim_trimRight line)
  have ht : '\n' ∉ t := not_mem_trim hline
  rw [hkind]
  exact ⟨head_brackets ht, fun command condition h => action_brackets (trimmed_trim line) ht h⟩

theorem ofText_bracket_positions_many :
    (ofText " [a]\u2003[b] [c]]").kind = .action "[a]" (some "b] [c]") ∧
      (∃ p, OpensAt "[a]\u2003[b] [c]]" p ∧
        Text.of "[a]" = trimRight (("[a]\u2003[b] [c]]" : Text).take p)) ∧
      (ofText "if \t[ x [y] ]").kind = .head (some "x [y]") ∧
      (trimLeft (("if \t[ x [y] ]" : Text).drop 2)).head? = some '[' := by
  have haction : (ofText " [a]\u2003[b] [c]]").kind = .action "[a]" (some "b] [c]") := by decide +kernel
  have hhead : (ofText "if \t[ x [y] ]").kind = .head (some "x [y]") := by decide +kernel
  have htrim : trim " [a]\u2003[b] [c]]" = "[a]\u2003[b] [c]]" := by decide +kernel
  have htrimmed : trim "if \t[ x [y] ]" = "if \t[ x [y] ]" := by decide +kernel
  obtain ⟨-, hopens, -⟩ :=
    (ofText_bracket_positions " [a]\u2003[b] [c]]" (by decide)).2 _ _ haction
  obtain ⟨p, hp, hcommand, -⟩ := hopens _ rfl
  obtain ⟨condition, hkind, hsome, -⟩ :=
    (ofText_bracket_positions "if \t[ x [y] ]" (by decide)).1 ⟨"\t[ x [y] ]", by decide +kernel⟩
  rw [hhead] at hkind
  cases hkind
  rw [htrim] at hp hcommand
  rw [htrimmed] at hsome
  exact ⟨haction, ⟨p, hp, hcommand⟩, hhead, (hsome.1 rfl).2⟩

end BattleScript.Script.Line
