import Mathlib.Data.List.DropRight
import BattleScript.Text.Blank

/-!
Trimming. A text is trimmed if it neither starts nor ends with a blank; trimming gives such a text,
leaves one as it is, and does not see blanks put in front of a text or behind it.
-/
namespace BattleScript.Text

structure Trimmed (t : Text) : Prop where
  left : ∀ c ∈ t.head?, isBlank c = false
  right : ∀ c ∈ t.getLast?, isBlank c = false

theorem trimmed_iff {t : Text} :
    Trimmed t ↔ (t.head?.all fun c => !isBlank c) = true ∧ (t.getLast?.all fun c => !isBlank c) = true := by
  simp only [Option.all_eq_true, Bool.not_eq_true']
  exact ⟨fun h => ⟨h.left, h.right⟩, fun h => ⟨h.1, h.2⟩⟩

instance (t : Text) : Decidable (Trimmed t) :=
  decidable_of_iff' _ trimmed_iff

theorem trimLeft_eq_nil {w : Text} (hw : ∀ c ∈ w, isBlank c) : trimLeft w = [] :=
  List.dropWhile_eq_nil_iff.2 hw

theorem trimLeft_append {w : Text} (hw : ∀ c ∈ w, isBlank c) (t : Text) :
    trimLeft (w ++ t) = trimLeft t := by
  rw [trimLeft, List.dropWhile_append_of_pos hw]
  rfl

theorem trimLeft_cons {c : Char} (hc : isBlank c = false) (t : Text) :
    trimLeft (c :: t) = c :: t := by
  rw [trimLeft, List.dropWhile_cons_of_neg (by rw [hc]; exact Bool.false_ne_true)]

theorem exists_blank_append_trimLeft (t : Text) :
    ∃ w, (∀ c ∈ w, isBlank c) ∧ t = w ++ trimLeft t :=
  ⟨t.takeWhile isBlank, fun _ hc => List.mem_takeWhile_imp hc, List.takeWhile_append_dropWhile.symm⟩

theorem head?_trimLeft (t : Text) : ∀ c ∈ (trimLeft t).head?, isBlank c = false := by
  intro c hc
  have h := List.head?_dropWhile_not isBlank t
  rw [show (t.dropWhile isBlank).head? = some c from hc] at h
  exact h

theorem trimLeft_eq_self {t : Text} (h : ∀ c ∈ t.head?, isBlank c = false) : trimLeft t = t := by
  cases t with
  | nil => rfl
  | cons c t => exact trimLeft_cons (h c rfl) t

theorem trimRight_append {w : Text} (hw : ∀ c ∈ w, isBlank c) (t : Text) :
    trimRight (t ++ w) = trimRight t := by
  have hrev : ∀ c ∈ w.reverse, isBlank c := fun c hc => hw c (List.mem_reverse.1 hc)
  rw [trimRight, List.reverse_append, List.dropWhile_append_of_pos hrev]
  rfl

theorem exists_trimRight_append_blank (t : Text) :
    ∃ w, (∀ c ∈ w, isBlank c) ∧ t = trimRight t ++ w :=
  ⟨t.rtakeWhile isBlank, fun _ hc => List.mem_rtakeWhile_imp hc,
    List.rdropWhile_append_rtakeWhile.symm⟩

theorem getLast?_trimRight (t : Text) : ∀ c ∈ (trimRight t).getLast?, isBlank c = false := by
  intro c hc
  rw [trimRight, List.getLast?_reverse] at hc
  exact head?_trimLeft t.reverse c hc

theorem trimRight_eq_self {t : Text} (h : ∀ c ∈ t.getLast?, isBlank c = false) :
    trimRight t = t := by
  have hrev : trimLeft t.reverse = t.reverse :=
    trimLeft_eq_self fun c hc => h c (by rwa [List.head?_reverse] at hc)
  rw [trimRight, show t.reverse.dropWhile isBlank = t.reverse from hrev, List.reverse_reverse]

theorem trim_append_left {w : Text} (hw : ∀ c ∈ w, isBlank c) (t : Text) : trim (w ++ t) = trim t := by
  rw [trim, trimLeft_append hw, trim]

theorem trim_append_right {w : Text} (hw : ∀ c ∈ w, isBlank c) (t : Text) : trim (t ++ w) = trim t := by
  rw [trim, trim, trimLeft, List.dropWhile_append]
  cases h : t.dropWhile isBlank with
  | nil => rw [List.isEmpty_nil, if_pos rfl, show w.dropWhile isBlank = [] from trimLeft_eq_nil hw,
      trimLeft, h]
  | cons c r => rw [List.isEmpty_cons, if_neg Bool.false_ne_true, trimRight_append hw, trimLeft, h]

theorem trim_trimRight (t : Text) : trim (trimRight t) = trim t := by
  obtain ⟨w, hw, ht⟩ := exists_trimRight_append_blank t
  conv_rhs => rw [ht, trim_append_right hw]

theorem trimmed_trim (t : Text) : Trimmed (trim t) := by
  refine ⟨fun c hc => ?_, getLast?_trimRight (trimLeft t)⟩
  -- What is left of a text after cutting at its end starts as the text does.
  obtain ⟨w, -, ht⟩ := exists_trimRight_append_blank (trimLeft t)
  apply head?_trimLeft t c
  rw [ht, Option.mem_def, List.head?_append, show (trimRight (trimLeft t)).head? = some c from hc]
  rfl

theorem Trimmed.trim_eq {t : Text} (h : Trimmed t) : trim t = t := by
  rw [trim, trimLeft_eq_self h.left, trimRight_eq_self h.right]

theorem exists_blank_append_trim (t : Text) :
    ∃ w w', (∀ c ∈ w, isBlank c) ∧ (∀ c ∈ w', isBlank c) ∧ t = w ++ trim t ++ w' := by
  obtain ⟨w, hw, hleft⟩ := exists_blank_append_trimLeft t
  obtain ⟨w', hw', hright⟩ := exists_trimRight_append_blank (trimLeft t)
  refine ⟨w, w', hw, hw', ?_⟩
  rw [trim, List.append_assoc, ← hright, ← hleft]

theorem not_mem_trim {c : Char} {t : Text} (h : c ∉ t) : c ∉ trim t := by
  obtain ⟨w, w', -, -, ht⟩ := exists_blank_append_trim t
  intro hc
  apply h
  rw [ht]
  exact List.mem_append_left _ (List.mem_append_right _ hc)

end BattleScript.Text
