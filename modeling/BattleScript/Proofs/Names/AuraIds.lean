import BattleScript.Proofs.Names.AuraLine

/-!
Counting an id up by one. Digits are read as a number and the next number is written down again, without
zeros in front. Reading and writing undo each other, and only nines alone get a digit more.
-/
namespace BattleScript.Text

def Digits (t : Text) : Prop :=
  t ≠ [] ∧ ∀ c ∈ t, '0' ≤ c ∧ c ≤ '9'

/-- The number `n` in digits, without zeros in front of others. -/
structure NumeralOf (n : Nat) (t : Text) : Prop where
  digits : Digits t
  leading : t.head? = some '0' → t = ['0']
  value : Nat.ofDigitChars 10 t 0 = n

theorem toNat_of_digit {c : Char} (h : '0' ≤ c ∧ c ≤ '9') : 48 ≤ c.toNat ∧ c.toNat ≤ 57 := h

theorem ofDigitChars_concat (t : Text) (c : Char) :
    Nat.ofDigitChars 10 (t ++ [c]) 0 = 10 * Nat.ofDigitChars 10 t 0 + (c.toNat - 48) := by
  rw [Nat.ofDigitChars_append, Nat.ofDigitChars_cons, Nat.ofDigitChars_nil]
  rfl

theorem ofDigitChars_lt {t : Text} (h : ∀ c ∈ t, '0' ≤ c ∧ c ≤ '9') :
    Nat.ofDigitChars 10 t 0 < 10 ^ t.length := by
  induction t using List.reverseRecOn with
  | nil => decide
  | append_singleton t c ih =>
    have hc := toNat_of_digit (h c (List.mem_append_right t (List.mem_singleton_self c)))
    have ht := ih fun d hd => h d (List.mem_append_left [c] hd)
    rw [ofDigitChars_concat, List.length_append, List.length_singleton, Nat.pow_succ]
    omega

theorem eq_nines_of_ofDigitChars {t : Text} (h : ∀ c ∈ t, '0' ≤ c ∧ c ≤ '9')
    (hvalue : Nat.ofDigitChars 10 t 0 + 1 = 10 ^ t.length) : t = List.replicate t.length '9' := by
  induction t using List.reverseRecOn with
  | nil => rfl
  | append_singleton t c ih =>
    have hc := toNat_of_digit (h c (List.mem_append_right t (List.mem_singleton_self c)))
    have hfront : ∀ d ∈ t, '0' ≤ d ∧ d ≤ '9' := fun d hd => h d (List.mem_append_left [c] hd)
    have hlt := ofDigitChars_lt hfront
    rw [ofDigitChars_concat, List.length_append, List.length_singleton, Nat.pow_succ] at hvalue
    have hnine : c = '9' := Char.toNat_inj.1 (by omega : c.toNat = 57)
    rw [List.length_append, List.length_singleton, List.replicate_succ', ← ih hfront (by omega), hnine]

theorem length_next_iff {t : Text} {limit : Nat} (h : Digits t) (hlength : t.length ≤ limit) :
    limit < (ofNat (Nat.ofDigitChars 10 t 0 + 1)).length ↔ t = List.replicate limit '9' := by
  have hpos : 0 < limit := Nat.lt_of_lt_of_le (List.length_pos_of_ne_nil h.1) hlength
  have hlt := ofDigitChars_lt h.2
  have hpow : 10 ^ t.length ≤ 10 ^ limit := Nat.pow_le_pow_right (by decide) hlength
  rw [← Nat.not_le, ofNat, Nat.length_toDigits_le_iff (by decide) hpos, Nat.not_lt]
  constructor
  · intro hle
    have hpowers : 10 ^ t.length = 10 ^ limit := by omega
    have hsame : t.length = limit := Nat.pow_right_injective (by decide : 2 ≤ 10) hpowers
    rw [← hsame] at hle ⊢
    exact eq_nines_of_ofDigitChars h.2 (by omega)
  · intro ht
    have hnines : Nat.ofDigitChars 10 t 0 + 1 = 10 ^ limit := ht ▸ Names.decimalValue_nines limit
    exact hnines.ge

theorem ofDigitChars_pos {t : Text} (h : Digits t) (hzero : t.head? ≠ some '0') :
    0 < Nat.ofDigitChars 10 t 0 := by
  obtain ⟨c, r, rfl⟩ := List.exists_cons_of_ne_nil h.1
  have hc := toNat_of_digit (h.2 c (List.mem_cons_self ..))
  have hne : c.toNat ≠ 48 := fun heq => hzero (congrArg some (Char.toNat_inj.1 heq))
  rw [Nat.ofDigitChars_cons, Nat.ofDigitChars_eq_ofDigitChars_zero]
  have hfirst : 0 < 10 * 0 + (c.toNat - '0'.toNat) := by
    change 0 < 10 * 0 + (c.toNat - 48)
    omega
  have hleading := Nat.mul_pos (Nat.pow_pos (by decide : 0 < 10)) hfirst (n := 10 ^ r.length)
  omega

theorem digitChar_of_digit {c : Char} (h : '0' ≤ c ∧ c ≤ '9') : Nat.digitChar (c.toNat - 48) = c := by
  have hc := toNat_of_digit h
  apply Char.toNat_inj.1
  rw [Nat.toNat_digitChar_of_lt_ten (by omega)]
  omega

theorem ofNat_ofDigitChars {t : Text} (h : Digits t) (hzero : t.head? ≠ some '0') :
    ofNat (Nat.ofDigitChars 10 t 0) = t := by
  induction t using List.reverseRecOn with
  | nil => exact absurd rfl h.1
  | append_singleton t c ih =>
    have hdigit := h.2 c (List.mem_append_right t (List.mem_singleton_self c))
    have hc := toNat_of_digit hdigit
    have hlast : Nat.toDigits 10 (c.toNat - 48) = [c] := by
      rw [Nat.toDigits_of_lt_base (by omega), digitChar_of_digit hdigit]
    rw [ofDigitChars_concat, ofNat]
    by_cases ht : t = []
    · rw [ht, Nat.ofDigitChars_nil, Nat.mul_zero, Nat.zero_add, hlast, List.nil_append]
    · have hfront : Digits t := ⟨ht, fun d hd => h.2 d (List.mem_append_left [c] hd)⟩
      rw [List.head?_append_of_ne_nil _ ht] at hzero
      rw [← Nat.toDigits_append_toDigits (by decide) (ofDigitChars_pos hfront hzero) (by omega), hlast]
      exact congrArg (· ++ [c]) (ih hfront hzero)

theorem digits_ofNat (n : Nat) : Digits (ofNat n) := by
  refine ⟨Nat.toDigits_ne_nil, fun c hc => ?_⟩
  have hdigit := Nat.isDigit_of_mem_toDigits (by decide) (by decide) hc
  rw [Char.isDigit, Bool.and_eq_true, decide_eq_true_eq, decide_eq_true_eq] at hdigit
  exact hdigit

theorem head?_ofNat {n : Nat} (hn : 0 < n) : (ofNat n).head? ≠ some '0' := by
  induction n using Nat.strongRecOn with
  | ind n ih =>
    rw [ofNat, Nat.toDigits_eq_if (by decide)]
    split_ifs with hsmall
    · rw [List.head?_cons, ne_eq, Option.some.injEq, Nat.digitChar_eq_zero]
      omega
    · rw [List.head?_append_of_ne_nil _ Nat.toDigits_ne_nil]
      exact ih (n / 10) (by omega) (by omega)

theorem numeralOf_iff {n : Nat} {t : Text} : NumeralOf n t ↔ t = ofNat n := by
  constructor
  · rintro ⟨hdigits, hleading, rfl⟩
    by_cases hzero : t.head? = some '0'
    · rw [hleading hzero]
      rfl
    · exact (ofNat_ofDigitChars hdigits hzero).symm
  · rintro rfl
    refine ⟨digits_ofNat n, fun hzero => ?_, Nat.ofDigitChars_ten_toDigits⟩
    rcases Nat.eq_zero_or_pos n with rfl | hn
    · rfl
    · exact absurd hzero (head?_ofNat hn)

end BattleScript.Text

namespace BattleScript.Names
open Text

theorem isNumericId_iff_digits {t : Text} : isNumericId t = true ↔ Digits t := by
  simp only [isNumericId_iff, isAsciiDigit, Bool.and_eq_true, decide_eq_true_eq, Digits]

theorem auraAbilityId_of_not_digits {s : Text} (h : ¬ Digits s) : auraAbilityId s = .ok none := by
  rw [auraAbilityId, Bool.eq_false_iff.2 (mt isNumericId_iff_digits.1 h)]
  rfl

theorem auraAbilityId_of_long {s : Text} (h : Digits s) (hlong : Json.digitLimit < s.length) :
    auraAbilityId s = .error (.idTooLong s.length) := by
  rw [auraAbilityId, isNumericId_iff_digits.2 h, if_neg (by decide), if_pos hlong]

theorem auraAbilityId_of_digits {s : Text} (h : Digits s) (hlength : s.length ≤ Json.digitLimit) :
    auraAbilityId s = if s = List.replicate Json.digitLimit '9' then .error .successorTooLong
      else .ok (some (ofNat (Nat.ofDigitChars 10 s 0 + 1))) := by
  have hnext := length_next_iff h hlength
  rw [auraAbilityId, isNumericId_iff_digits.2 h, if_neg (by decide), if_neg (Nat.not_lt.2 hlength)]
  exact if_congr hnext rfl rfl

def limitError (s : Text) : LookupError :=
  if 4300 < s.length then .idTooLong s.length else .successorTooLong

theorem auraAbilityId_cases (s : Text) :
    (¬ Digits s ∧ auraAbilityId s = .ok none) ∨
    (Digits s ∧ (4300 < s.length ∨ s = List.replicate 4300 '9') ∧
      auraAbilityId s = .error (limitError s)) ∨
    (Digits s ∧ ¬ (4300 < s.length ∨ s = List.replicate 4300 '9') ∧
      auraAbilityId s = .ok (some (ofNat (Nat.ofDigitChars 10 s 0 + 1)))) := by
  by_cases hdigits : Digits s
  · by_cases hlong : 4300 < s.length
    · refine .inr (.inl ⟨hdigits, .inl hlong, ?_⟩)
      rw [auraAbilityId_of_long hdigits hlong, limitError, if_pos hlong]
    · have hid := auraAbilityId_of_digits hdigits (Nat.not_lt.1 hlong)
      by_cases hnines : s = List.replicate 4300 '9'
      · refine .inr (.inl ⟨hdigits, .inr hnines, ?_⟩)
        rw [limitError, if_neg hlong]
        exact hid.trans (if_pos hnines)
      · exact .inr (.inr ⟨hdigits, not_or.2 ⟨hlong, hnines⟩, hid.trans (if_neg hnines)⟩)
  · exact .inl ⟨hdigits, auraAbilityId_of_not_digits hdigits⟩

theorem auraAbilityId_eq_none_iff {s : Text} : auraAbilityId s = .ok none ↔ ¬ Digits s := by
  obtain ⟨hdigits, hid⟩ | ⟨hdigits, -, hid⟩ | ⟨hdigits, -, hid⟩ := auraAbilityId_cases s
  · exact iff_of_true hid hdigits
  · exact iff_of_false (by rw [hid]; nofun) (not_not_intro hdigits)
  · exact iff_of_false (by rw [hid]; nofun) (not_not_intro hdigits)

theorem exists_auraAbilityId_error_iff {s : Text} : (∃ e, auraAbilityId s = .error e) ↔
    Digits s ∧ (4300 < s.length ∨ s = List.replicate 4300 '9') := by
  obtain ⟨hdigits, hid⟩ | ⟨hdigits, hlimit, hid⟩ | ⟨-, hlimit, hid⟩ := auraAbilityId_cases s
  · exact iff_of_false (by rw [hid]; nofun) fun h => hdigits h.1
  · exact iff_of_true ⟨_, hid⟩ ⟨hdigits, hlimit⟩
  · exact iff_of_false (by rw [hid]; nofun) fun h => hlimit h.2

theorem eq_limitError {s : Text} {e : LookupError} (h : auraAbilityId s = .error e) :
    e = limitError s := by
  obtain ⟨-, hid⟩ | ⟨-, -, hid⟩ | ⟨-, -, hid⟩ := auraAbilityId_cases s
  · cases h.symm.trans hid
  · exact Except.error.inj (h.symm.trans hid)
  · cases h.symm.trans hid

theorem auraAbilityId_eq_some_iff {s t : Text} : auraAbilityId s = .ok (some t) ↔
    Digits s ∧ ¬ (4300 < s.length ∨ s = List.replicate 4300 '9') ∧
      NumeralOf (Nat.ofDigitChars 10 s 0 + 1) t := by
  obtain ⟨hdigits, hid⟩ | ⟨-, hlimit, hid⟩ | ⟨hdigits, hlimit, hid⟩ := auraAbilityId_cases s
  · exact iff_of_false (by rw [hid]; nofun) fun h => hdigits h.1
  · exact iff_of_false (by rw [hid]; nofun) fun h => h.2.1 hlimit
  · rw [hid, Except.ok.injEq, Option.some.injEq, numeralOf_iff, eq_comm]
    exact ⟨fun ht => ⟨hdigits, hlimit, ht⟩, fun h => h.2.2⟩

theorem exists_auraAbilityId_some_iff {s : Text} :
    (∃ t, auraAbilityId s = .ok (some t) ∧ NumeralOf (Nat.ofDigitChars 10 s 0 + 1) t) ↔
      Digits s ∧ ¬ (4300 < s.length ∨ s = List.replicate 4300 '9') := by
  constructor
  · rintro ⟨t, hid, -⟩
    obtain ⟨hdigits, hlimit, -⟩ := auraAbilityId_eq_some_iff.1 hid
    exact ⟨hdigits, hlimit⟩
  · rintro ⟨hdigits, hlimit⟩
    have hnumeral := numeralOf_iff.2 (Eq.refl (ofNat (Nat.ofDigitChars 10 s 0 + 1)))
    exact ⟨_, auraAbilityId_eq_some_iff.2 ⟨hdigits, hlimit, hnumeral⟩, hnumeral⟩

theorem next_eq_iff {s s' t t' : Text} (h : auraAbilityId s = .ok (some t))
    (h' : auraAbilityId s' = .ok (some t')) :
    t = t' ↔ Nat.ofDigitChars 10 s 0 = Nat.ofDigitChars 10 s' 0 := by
  have ht := (auraAbilityId_eq_some_iff.1 h).2.2
  have ht' := (auraAbilityId_eq_some_iff.1 h').2.2
  constructor
  · rintro rfl
    exact Nat.succ.inj (ht.value.symm.trans ht'.value)
  · intro hvalue
    rw [hvalue] at ht
    exact (numeralOf_iff.1 ht).trans (numeralOf_iff.1 ht').symm

/-- Ids of auras are counted up as numbers. Digits give the numeral of the next number, unless they or that
numeral are beyond the limit, and other texts give nothing. -/
theorem auraAbilityId_counts_up (s : Text) :
    (auraAbilityId s = .ok none ↔ ¬ Digits s) ∧
    ((∃ e, auraAbilityId s = .error e) ↔ Digits s ∧ (4300 < s.length ∨ s = List.replicate 4300 '9')) ∧
    (∀ e, auraAbilityId s = .error e →
      e = if 4300 < s.length then .idTooLong s.length else .successorTooLong) ∧
    ((∃ t, auraAbilityId s = .ok (some t) ∧ NumeralOf (Nat.ofDigitChars 10 s 0 + 1) t) ↔
      Digits s ∧ ¬ (4300 < s.length ∨ s = List.replicate 4300 '9')) ∧
    ∀ s' t t', auraAbilityId s = .ok (some t) → auraAbilityId s' = .ok (some t') →
      (t = t' ↔ Nat.ofDigitChars 10 s 0 = Nat.ofDigitChars 10 s' 0) :=
  ⟨auraAbilityId_eq_none_iff, exists_auraAbilityId_error_iff, fun _ => eq_limitError,
    exists_auraAbilityId_some_iff, fun _ _ _ => next_eq_iff⟩

theorem auraAbilityId_counts_up_zeros :
    auraAbilityId "099" = .ok (some "100") ∧ auraAbilityId "99" = .ok (some "100") ∧
      Nat.ofDigitChars 10 (Text.of "099") 0 = Nat.ofDigitChars 10 (Text.of "99") 0 := by
  have h : auraAbilityId "099" = .ok (some "100") := by decide +kernel
  have h' : auraAbilityId "99" = .ok (some "100") := by decide +kernel
  exact ⟨h, h', ((auraAbilityId_counts_up "099").2.2.2.2 _ _ _ h h').1 rfl⟩

end BattleScript.Names
