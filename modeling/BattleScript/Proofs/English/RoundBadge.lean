import BattleScript.English.Phrase
import BattleScript.Proofs.Script.Conjunction
import BattleScript.Proofs.Script.SelectorText

/-!
Badges of rounds. A badge is searched in the text of a condition, not in its predicates: it is that of the
first place where a word `round`, an operator and a number follow one another. Such a place never reaches
over a separator, so each predicate can be searched alone. One that compares the round has its own badge;
another one has a badge too if such a place is in its text.
-/
namespace BattleScript.Text

def blankCodes : List Nat :=
  [0x09, 0x0A, 0x0B, 0x0C, 0x0D, 0x1C, 0x1D, 0x1E, 0x1F, 0x20, 0x85, 0xA0, 0x1680, 0x2000, 0x2001, 0x2002,
    0x2003, 0x2004, 0x2005, 0x2006, 0x2007, 0x2008, 0x2009, 0x200A, 0x2028, 0x2029, 0x202F, 0x205F, 0x3000]

theorem mem_blankCodes {c : Char} (h : isBlank c) : c.toNat ∈ blankCodes := by
  simp only [isBlank, Bool.or_eq_true, Bool.and_eq_true, decide_eq_true_eq, beq_iff_eq] at h
  simp only [blankCodes, List.mem_cons, List.not_mem_nil, or_false]
  omega

theorem isWord_of_blank {c : Char} (h : isBlank c) : isWord c = false := by
  have htable : ∀ n ∈ blankCodes, (wordRanges.any fun r => r.1 ≤ n && n ≤ r.2) = false := by
    decide +kernel
  exact htable _ (mem_blankCodes h)

theorem isDigit_of_blank {c : Char} (h : isBlank c) : isDigit c = false := by
  have htable : ∀ n ∈ blankCodes, (digitZeros.any fun z => z ≤ n && n < z + 10) = false := by
    decide +kernel
  exact htable _ (mem_blankCodes h)

theorem isBlank_of_digit {c : Char} (h : isDigit c) : isBlank c = false := by
  by_contra hblank
  rw [isDigit_of_blank (by simpa using hblank)] at h
  cases h

theorem head?_dropWhile_isDigit (t : Text) : ∀ c ∈ (t.dropWhile isDigit).head?, isDigit c = false := by
  intro c hc
  have h := List.head?_dropWhile_not isDigit t
  rwa [show (t.dropWhile isDigit).head? = some c from hc] at h

end BattleScript.Text

namespace BattleScript.English
open Text Script

def badge (operator : Operator) (digits : Text) : Text :=
  'R' :: (if operator = .equals then [] else operator.symbol) ++ digits

structure RoundText (t : Text) (operator : Operator) (digits : Text) : Prop where
  parts : ∃ w w', (∀ c ∈ w, isBlank c) ∧ (∀ c ∈ w', isBlank c) ∧
    t = Text.of "round" ++ (w ++ (operator.symbol ++ (w' ++ digits)))
  operator_mem : operator ∈ roundOperators
  nonempty : digits ≠ []
  allDigits : ∀ c ∈ digits, isDigit c

/-- A text starts with a comparison of the round, and these are all of its digits. -/
def StartsRound (t : Text) (operator : Operator) (digits : Text) : Prop :=
  ∃ front rest, t = front ++ rest ∧ RoundText front operator digits ∧
    ∀ c ∈ rest.head?, isDigit c = false

section
variable {t digits : Text} {operator : Operator}

theorem RoundText.getLast? (h : RoundText t operator digits) : ∃ d, t.getLast? = some d ∧ isDigit d := by
  obtain ⟨w, w', -, -, rfl⟩ := h.parts
  have hlast := List.getLast?_eq_some_getLast h.nonempty
  refine ⟨digits.getLast h.nonempty, ?_, h.allDigits _ (List.getLast_mem h.nonempty)⟩
  simp only [← List.append_assoc]
  rw [List.getLast?_append_of_ne_nil _ h.nonempty, hlast]

theorem RoundText.not_mem (h : RoundText t operator digits) : '&' ∉ t := by
  obtain ⟨w, w', hw, hw', rfl⟩ := h.parts
  have hdigits := h.allDigits '&'
  have hsymbol : '&' ∉ operator.symbol := by cases operator <;> decide
  simp only [List.mem_append, not_or]
  refine ⟨by decide, fun hmem => ?_, hsymbol, fun hmem => ?_, fun hmem => ?_⟩
  · exact absurd (hw _ hmem) (by decide)
  · exact absurd (hw' _ hmem) (by decide)
  · exact absurd (hdigits hmem) (by decide +kernel)

theorem startsRound_iff :
    StartsRound t operator digits ↔ operator ∈ roundOperators ∧ digits ≠ [] ∧
      ∃ r u, after? "round" t = some r ∧ after? operator.symbol (trimLeft r) = some u ∧
        (trimLeft u).takeWhile isDigit = digits := by
  constructor
  · rintro ⟨_, rest, rfl, ⟨⟨w, w', hw, hw', rfl⟩, hoperator, hne, hdigits⟩, hrest⟩
    refine ⟨hoperator, hne, w ++ (operator.symbol ++ (w' ++ digits)) ++ rest, w' ++ digits ++ rest, ?_, ?_, ?_⟩
    · rw [List.append_assoc]
      exact after?_append _ _
    · have hsymbol : ∀ c ∈ operator.symbol.head?, isBlank c = false := by
        intro c hc
        cases operator <;> obtain rfl := Option.some.inj hc <;> decide
      have hhead : ∀ c ∈ (operator.symbol ++ (w' ++ digits ++ rest)).head?, isBlank c = false := by
        rwa [List.head?_append_of_ne_nil _ operator.symbol_ne_nil]
      have hassoc : w ++ (operator.symbol ++ (w' ++ digits)) ++ rest =
          w ++ (operator.symbol ++ (w' ++ digits ++ rest)) := by simp only [List.append_assoc]
      rw [hassoc, trimLeft_append hw, trimLeft_eq_self hhead]
      exact after?_append _ _
    · have hhead : ∀ c ∈ (digits ++ rest).head?, isBlank c = false := by
        rw [List.head?_append_of_ne_nil _ hne]
        intro c hc
        exact isBlank_of_digit (hdigits c (List.mem_of_mem_head? hc))
      rw [List.append_assoc, trimLeft_append hw', trimLeft_eq_self hhead,
        List.takeWhile_append_of_pos hdigits]
      cases rest with
      | nil => simp
      | cons c rest => simp [hrest c rfl]
  · rintro ⟨hoperator, hne, r, u, hr, hsymbol, hdigits⟩
    obtain ⟨w, hw, hrw⟩ := exists_blank_append_trimLeft r
    obtain ⟨w', hw', huw⟩ := exists_blank_append_trimLeft u
    have hu : u = w' ++ (digits ++ (trimLeft u).dropWhile isDigit) := by
      rwa [← hdigits, List.takeWhile_append_dropWhile]
    have ht : t = Text.of "round" ++ (w ++ (operator.symbol ++ u)) := by
      rw [← after?_eq_some_iff.1 hsymbol, ← hrw]
      exact after?_eq_some_iff.1 hr
    refine ⟨_, (trimLeft u).dropWhile isDigit, ?_, ⟨⟨w, w', hw, hw', rfl⟩, hoperator, hne, ?_⟩, ?_⟩
    · simpa only [List.append_assoc, ← hu] using ht
    · intro c hc
      rw [← hdigits] at hc
      exact List.mem_takeWhile_imp hc
    · exact head?_dropWhile_isDigit (trimLeft u)

theorem symbol_append_inj {operator operator' : Operator} {u u' : Text}
    (h : operator.symbol ++ u = operator'.symbol ++ u') (hu : u.head? ≠ some '=')
    (hu' : u'.head? ≠ some '=') : operator = operator' ∧ u = u' := by
  cases operator <;> cases operator' <;> grind [Operator.symbol]

theorem head?_ne_equals {u : Text} (h : (trimLeft u).takeWhile isDigit ≠ []) : u.head? ≠ some '=' := by
  intro hhead
  obtain ⟨r, rfl⟩ := List.head?_eq_some_iff.1 hhead
  apply h
  have hdigit : isDigit '=' = false := by decide +kernel
  rw [trimLeft_cons (by decide), List.takeWhile_cons, hdigit]
  rfl

theorem StartsRound.unique {operator' : Operator} {digits' : Text} (h : StartsRound t operator digits)
    (h' : StartsRound t operator' digits') : operator = operator' ∧ digits = digits' := by
  obtain ⟨-, hne, r, u, hr, hu, rfl⟩ := startsRound_iff.1 h
  obtain ⟨-, hne', r', u', hr', hu', rfl⟩ := startsRound_iff.1 h'
  obtain rfl : r = r' := Option.some.inj (hr.symm.trans hr')
  have hboth := (after?_eq_some_iff.1 hu).symm.trans (after?_eq_some_iff.1 hu')
  obtain ⟨hoperator, rfl⟩ := symbol_append_inj hboth (head?_ne_equals hne) (head?_ne_equals hne')
  exact ⟨hoperator, rfl⟩

theorem badgeHere_eq_some_iff {b : Text} :
    badgeHere t = some b ↔ ∃ operator digits, StartsRound t operator digits ∧ b = badge operator digits := by
  have hsound (b : Text) (h : badgeHere t = some b) :
      ∃ operator digits, StartsRound t operator digits ∧ b = badge operator digits := by
    unfold badgeHere at h
    split at h
    · cases h
    · rename_i r hr
      obtain ⟨operator, hoperator, hfound⟩ := List.exists_of_findSome?_eq_some h
      split at hfound
      · cases hfound
      · rename_i u hu
        split at hfound
        · cases hfound
        · rename_i digits hne
          refine ⟨operator, (trimLeft u).takeWhile isDigit, ?_, (Option.some.inj hfound).symm⟩
          exact startsRound_iff.2 ⟨hoperator, hne, r, u, hr, hu, rfl⟩
  refine ⟨hsound b, ?_⟩
  rintro ⟨operator, digits, hstarts, rfl⟩
  have hsome : (badgeHere t).isSome := by
    obtain ⟨hoperator, hne, r, u, hr, hu, hdigits⟩ := startsRound_iff.1 hstarts
    rw [badgeHere, hr]
    apply List.findSome?_isSome_iff.2
    obtain ⟨d, ds, rfl⟩ := List.exists_cons_of_ne_nil hne
    refine ⟨operator, hoperator, ?_⟩
    simp only [hu, hdigits, Option.isSome_some]
  obtain ⟨b, hb⟩ := Option.isSome_iff_exists.1 hsome
  obtain ⟨operator', digits', hstarts', rfl⟩ := hsound b hb
  obtain ⟨rfl, rfl⟩ := hstarts.unique hstarts'
  exact hb

end

def wordBefore (inWord : Bool) (t : Text) : Nat → Bool
  | 0 => inWord
  | i + 1 => t[i]?.any isWord

def RoundAt (inWord : Bool) (t : Text) (i : Nat) (operator : Operator) (digits : Text) : Prop :=
  wordBefore inWord t i = false ∧ StartsRound (t.drop i) operator digits

section
variable {inWord : Bool} {t digits : Text} {operator : Operator} {c : Char} {i : Nat}

theorem not_startsRound_of_head? (h : t.head? ≠ some 'r') : ¬ StartsRound t operator digits := by
  intro hstarts
  obtain ⟨-, -, r, u, hr, -⟩ := startsRound_iff.1 hstarts
  apply h
  rw [after?_eq_some_iff.1 hr]
  rfl

theorem roundAt_cons_succ :
    RoundAt inWord (c :: t) (i + 1) operator digits ↔ RoundAt (isWord c) t i operator digits := by
  cases i <;> rfl

theorem badgeFrom_of_startsRound (h : StartsRound t operator digits) :
    badgeFrom false t = some (badge operator digits) := by
  cases t with
  | nil => exact absurd h (not_startsRound_of_head? nofun)
  | cons c t =>
    have hhere := badgeHere_eq_some_iff.2 ⟨operator, digits, h, rfl⟩
    simp only [badgeFrom, Bool.false_eq_true, if_false, hhere]

theorem badgeFrom_cons (h : ∀ operator digits, ¬ RoundAt inWord (c :: t) 0 operator digits) :
    badgeFrom inWord (c :: t) = badgeFrom (isWord c) t := by
  have hnone : (if inWord then none else badgeHere (c :: t)) = none := by
    cases inWord with
    | true => rfl
    | false =>
      rw [if_neg Bool.false_ne_true, Option.eq_none_iff_forall_ne_some]
      intro b hb
      obtain ⟨operator, digits, hstarts, -⟩ := badgeHere_eq_some_iff.1 hb
      exact h operator digits ⟨rfl, hstarts⟩
  rw [badgeFrom, hnone]

theorem badgeFrom_eq_some_iff {b : Text} :
    badgeFrom inWord t = some b ↔ ∃ i operator digits, RoundAt inWord t i operator digits ∧
      (∀ j < i, ∀ operator' digits', ¬ RoundAt inWord t j operator' digits') ∧
        b = badge operator digits := by
  induction t generalizing inWord with
  | nil =>
    constructor
    · intro h
      cases h
    · rintro ⟨i, operator, digits, ⟨-, hstarts⟩, -⟩
      rw [List.drop_nil] at hstarts
      exact absurd hstarts (not_startsRound_of_head? nofun)
  | cons c t ih =>
    by_cases hfront : ∃ operator digits, RoundAt inWord (c :: t) 0 operator digits
    · obtain ⟨operator, digits, hat⟩ := hfront
      obtain rfl : inWord = false := hat.1
      have hbadge : badgeFrom false (c :: t) = some (badge operator digits) :=
        badgeFrom_of_startsRound hat.2
      rw [hbadge, Option.some.injEq]
      constructor
      · rintro rfl
        exact ⟨0, operator, digits, hat, fun j hj => absurd hj (Nat.not_lt_zero j), rfl⟩
      · rintro ⟨i, operator', digits', hat', hfirst, rfl⟩
        obtain rfl : i = 0 := by
          by_contra hne
          exact hfirst 0 (Nat.pos_of_ne_zero hne) operator digits hat
        obtain ⟨rfl, rfl⟩ := StartsRound.unique hat.2 hat'.2
        rfl
    · have hnot : ∀ operator digits, ¬ RoundAt inWord (c :: t) 0 operator digits :=
        fun operator digits h => hfront ⟨operator, digits, h⟩
      rw [badgeFrom_cons hnot, ih]
      constructor
      · rintro ⟨i, operator, digits, hat, hfirst, rfl⟩
        refine ⟨i + 1, operator, digits, roundAt_cons_succ.2 hat, fun j hj operator' digits' h => ?_, rfl⟩
        cases j with
        | zero => exact hnot _ _ h
        | succ j => exact hfirst j (Nat.lt_of_succ_lt_succ hj) _ _ (roundAt_cons_succ.1 h)
      · rintro ⟨i, operator, digits, hat, hfirst, rfl⟩
        cases i with
        | zero => exact absurd hat (hnot _ _)
        | succ i =>
          refine ⟨i, operator, digits, roundAt_cons_succ.1 hat, fun j hj operator' digits' h => ?_, rfl⟩
          exact hfirst (j + 1) (Nat.succ_lt_succ hj) _ _ (roundAt_cons_succ.2 h)

theorem badgeFrom_skip (hc : c ≠ 'r') (hword : isWord c = false) :
    badgeFrom inWord (c :: t) = badgeFrom false t := by
  have hnot : ∀ operator digits, ¬ RoundAt inWord (c :: t) 0 operator digits := by
    intro operator digits h
    exact not_startsRound_of_head? (by simpa using hc) h.2
  rw [badgeFrom_cons hnot, hword]

theorem ne_of_blank {c : Char} (h : isBlank c) : c ≠ 'r' := by
  rintro rfl
  exact absurd h (by decide)

theorem roundBadge_blank_append {w : Text} (hw : ∀ c ∈ w, isBlank c) (t : Text) :
    roundBadge (w ++ t) = roundBadge t := by
  induction w with
  | nil => rfl
  | cons c w ih =>
    obtain ⟨hc, hw⟩ := List.forall_mem_cons.1 hw
    rw [← ih hw]
    exact badgeFrom_skip (ne_of_blank hc) (isWord_of_blank hc)

end

def Closes (x : Text) : Prop :=
  ∃ w y, x = w ++ y ∧ (∀ c ∈ w, isBlank c) ∧ ∀ c ∈ y.head?, c = '&'

section
variable {x digits : Text} {operator : Operator}

theorem Closes.head? (h : Closes x) : ∀ c ∈ x.head?, isBlank c ∨ c = '&' := by
  obtain ⟨w, y, rfl, hw, hy⟩ := h
  intro c hc
  cases w with
  | nil => exact .inr (hy c hc)
  | cons d w =>
    obtain rfl : d = c := Option.some.inj hc
    exact .inl (hw d (List.mem_cons_self ..))

theorem Closes.not_isDigit (h : Closes x) : ∀ c ∈ x.head?, isDigit c = false := by
  intro c hc
  rcases h.head? c hc with hblank | rfl
  · exact isDigit_of_blank hblank
  · decide +kernel

theorem Closes.eq_nil (h : Closes x) {a rest : Text} (hx : x = a ++ rest) (hamp : '&' ∉ a)
    (hlast : ∀ c ∈ a.getLast?, isDigit c) : a = [] := by
  obtain ⟨w, y, rfl, hw, hy⟩ := h
  have hblank : ∀ c ∈ a, isBlank c := by
    rcases List.append_eq_append_iff.1 hx with ⟨a', rfl, hy'⟩ | ⟨w', rfl, -⟩
    · cases a' with
      | nil => simpa using hw
      | cons c a' =>
        obtain rfl : c = '&' := hy c (by rw [hy']; rfl)
        simp at hamp
    · intro c hc
      exact hw c (List.mem_append_left _ hc)
  by_contra hne
  have hmem := List.getLast_mem hne
  have hdigit := hlast _ (List.getLast?_eq_some_getLast hne)
  rw [isDigit_of_blank (hblank _ hmem)] at hdigit
  cases hdigit

theorem RoundText.ends_before {s front rest : Text} (h : RoundText front operator digits) (hx : Closes x)
    (heq : s ++ x = front ++ rest) : ∃ behind, s = front ++ behind ∧ rest = behind ++ x := by
  rcases List.append_eq_append_iff.1 heq with ⟨a, rfl, hxa⟩ | hinside
  · -- Here `a` is what the comparison takes of `x`. Its last character would be a digit.
    have hamp : '&' ∉ a := fun hmem => h.not_mem (List.mem_append_right s hmem)
    have hlast : ∀ c ∈ a.getLast?, isDigit c := by
      intro c hc
      obtain ⟨d, hd, hdigit⟩ := h.getLast?
      have hne : a ≠ [] := by
        rintro rfl
        cases hc
      rw [List.getLast?_append_of_ne_nil _ hne, show a.getLast? = some c from hc] at hd
      rwa [Option.some.inj hd]
    obtain rfl := hx.eq_nil hxa hamp hlast
    exact ⟨[], by simp, by simpa using hxa.symm⟩
  · exact hinside

theorem startsRound_append_iff (hx : Closes x) {s : Text} :
    StartsRound (s ++ x) operator digits ↔ StartsRound s operator digits := by
  constructor
  · rintro ⟨front, rest, heq, hfront, hrest⟩
    obtain ⟨behind, rfl, rfl⟩ := hfront.ends_before hx heq
    refine ⟨front, behind, rfl, hfront, fun c hc => hrest c ?_⟩
    rw [Option.mem_def, List.head?_append, show behind.head? = some c from hc]
    rfl
  · rintro ⟨front, rest, rfl, hfront, hrest⟩
    refine ⟨front, rest ++ x, List.append_assoc _ _ _, hfront, ?_⟩
    cases rest with
    | nil => exact hx.not_isDigit
    | cons c rest => exact hrest

theorem badgeHere_append (hx : Closes x) (s : Text) : badgeHere (s ++ x) = badgeHere s := by
  ext b
  simp only [badgeHere_eq_some_iff, startsRound_append_iff hx]

theorem badgeFrom_of_closes (hx : Closes x) (inWord : Bool) : badgeFrom inWord x = roundBadge x := by
  cases x with
  | nil => rfl
  | cons c x =>
    have hc : c ≠ 'r' ∧ isWord c = false := by
      rcases hx.head? c rfl with hblank | rfl
      · exact ⟨ne_of_blank hblank, isWord_of_blank hblank⟩
      · decide +kernel
    rw [roundBadge, badgeFrom_skip hc.1 hc.2, badgeFrom_skip hc.1 hc.2]

theorem badgeFrom_append (hx : Closes x) (inWord : Bool) (s : Text) :
    badgeFrom inWord (s ++ x) = (badgeFrom inWord s).or (roundBadge x) := by
  induction s generalizing inWord with
  | nil => exact badgeFrom_of_closes hx inWord
  | cons c s ih =>
    have hhere := badgeHere_append hx (c :: s)
    rw [List.cons_append] at hhere
    rw [List.cons_append, badgeFrom, badgeFrom, hhere, ih]
    split <;> rfl

end

theorem roundBadge_trim (t : Text) : roundBadge (trim t) = roundBadge t := by
  obtain ⟨w, w', hw, hw', ht⟩ := exists_blank_append_trim t
  have hcloses : Closes w' := ⟨w', [], (List.append_nil w').symm, hw', nofun⟩
  have hnone : roundBadge w' = none := by
    have hblank := roundBadge_blank_append hw' []
    rwa [List.append_nil] at hblank
  conv_rhs => rw [ht, List.append_assoc, roundBadge_blank_append hw, roundBadge, badgeFrom_append hcloses,
    hnone, Option.or_none]
  rfl

theorem roundBadge_separator (p r : Text) :
    roundBadge (p ++ (Condition.separator ++ r)) = (roundBadge p).or (roundBadge r) := by
  have hcloses : Closes (Condition.separator ++ r) :=
    ⟨[' '], '&' :: ' ' :: r, rfl, by simp; decide, by simp⟩
  have hskip : roundBadge (Condition.separator ++ r) = roundBadge r := by
    have hword : isWord ' ' = false ∧ isWord '&' = false := by decide +kernel
    simp only [Condition.separator, List.cons_append, List.nil_append, roundBadge]
    rw [badgeFrom_skip (by decide) hword.1, badgeFrom_skip (by decide) hword.2,
      badgeFrom_skip (by decide) hword.1]
  rw [← hskip]
  exact badgeFrom_append hcloses false p

theorem roundBadge_join (pieces : List Text) :
    roundBadge (join Condition.separator pieces) = pieces.findSome? roundBadge := by
  induction pieces with
  | nil => rfl
  | cons p pieces ih =>
    cases pieces with
    | nil => rw [join_singleton, List.findSome?_singleton]
    | cons q pieces =>
      have hcons : p :: q :: pieces = [p] ++ q :: pieces := rfl
      rw [join_cons_cons, roundBadge_separator, ih, hcons, List.findSome?_append, List.findSome?_singleton]

theorem roundBadge_eq_findSome? (raw : Text) :
    roundBadge raw = (Condition.ofText raw).predicates.findSome? fun p => roundBadge p.raw := by
  have hpieces := roundBadge_join (Condition.splitAnd (trim raw))
  rw [Condition.join_splitAnd, roundBadge_trim] at hpieces
  rw [hpieces, Condition.ofText, List.findSome?_map]
  congr 1
  funext piece
  exact (roundBadge_trim piece).symm

def roundComparison? (p : Predicate) : Option (Operator × Text) :=
  match p.selector, p.operator, p.value with
  | some (.global .round), some operator, some value =>
    if operator ∈ roundOperators ∧ value.takeWhile isDigit ≠ [] then
      some (operator, value.takeWhile isDigit)
    else none
  | _, _, _ => none

theorem roundComparison?_eq_some_iff {p : Predicate} {operator : Operator} {digits : Text} :
    roundComparison? p = some (operator, digits) ↔
      p.selector = some (.global .round) ∧ p.operator = some operator ∧ operator ∈ roundOperators ∧
        digits ≠ [] ∧ ∃ value, p.value = some value ∧ value.takeWhile isDigit = digits := by
  unfold roundComparison?
  constructor
  · intro h
    split at h
    · rename_i operator' value hselector hoperator hvalue
      split at h
      · rename_i hcond
        cases h
        exact ⟨hselector, hoperator, hcond.1, hcond.2, value, hvalue, rfl⟩
      · cases h
    · cases h
  · rintro ⟨hselector, hoperator, hmem, hne, value, hvalue, rfl⟩
    simp only [hselector, hoperator, hvalue, if_pos (And.intro hmem hne)]

theorem trimmed_selector (t : Text) : Trimmed (Comparison.ofText t).selector := by
  rcases splitBy_firstPlace t with ⟨heq, -⟩ | ⟨operator, i, -, -, heq⟩
  · rw [heq]
    exact trimmed_trim t
  · rw [heq]
    exact trimmed_trim (t.take i)

theorem eq_round_of_selector {t : Text} (ht : Trimmed t)
    (h : Selector.ofText? t = some (.global .round)) : t = Text.of "round" := by
  rcases Selector.text_eq_or_variant h with heq | hvariant
  · exact heq.symm
  · cases hvariant with
    | lineBreak hlast => exact absurd (ht.right '\n' hlast) (by decide)

theorem roundBadge_cutNegation (t : Text) : roundBadge (Predicate.cutNegation t).2 = roundBadge t := by
  unfold Predicate.cutNegation
  split
  · rename_i r
    exact (badgeFrom_skip (by decide) (by decide +kernel)).symm
  · rfl

theorem startsRound_of_comparison {body value : Text} {operator : Operator}
    (h : Comparison.ofText body = ⟨some operator, "round", some value⟩)
    (hmem : operator ∈ roundOperators) (hne : value.takeWhile isDigit ≠ []) :
    ∃ w t, (∀ c ∈ w, isBlank c) ∧ body = w ++ t ∧
      StartsRound t operator (value.takeWhile isDigit) := by
  obtain ⟨i, hi, -, hsplit⟩ := exists_place_of_operator (congrArg Comparison.operator h)
  rw [h] at hsplit
  have hselector : Text.of "round" = trim (body.take i) := congrArg Comparison.selector hsplit
  have hvalue : value = trim (body.drop (i + operator.symbol.length)) :=
    Option.some.inj (congrArg Comparison.value hsplit)
  obtain ⟨w, w', hw, hw', hleft⟩ := exists_blank_append_trim (body.take i)
  obtain ⟨u, u', hu, hu', hright⟩ := exists_blank_append_trim (body.drop (i + operator.symbol.length))
  rw [← hselector] at hleft
  rw [← hvalue] at hright
  have hcloses : Closes u' := ⟨u', [], (List.append_nil u').symm, hu', nofun⟩
  refine ⟨w, Text.of "round" ++ (w' ++ (operator.symbol ++ (u ++ value))) ++ u', hw, ?_, ?_⟩
  · calc body = body.take i ++ operator.symbol ++ body.drop (i + operator.symbol.length) := hi.eq_append
      _ = (w ++ Text.of "round" ++ w') ++ operator.symbol ++ (u ++ value ++ u') := by rw [← hleft, ← hright]
      _ = _ := by simp only [List.append_assoc]
  · rw [startsRound_append_iff hcloses]
    refine ⟨_, value.dropWhile isDigit, ?_, ⟨⟨w', u, hw', hu, rfl⟩, hmem, hne, ?_⟩,
      head?_dropWhile_isDigit value⟩
    · simp only [List.append_assoc, List.takeWhile_append_dropWhile]
    · exact fun c hc => List.mem_takeWhile_imp hc

theorem roundBadge_of_roundComparison? {raw : Text} {operator : Operator} {digits : Text}
    (h : roundComparison? (Predicate.ofText raw) = some (operator, digits)) :
    roundBadge (Predicate.ofText raw).raw = some (badge operator digits) := by
  obtain ⟨hselector, hoperator, hmem, hne, value, hvalue, rfl⟩ := roundComparison?_eq_some_iff.1 h
  have hround : (Predicate.ofText raw).selectorRaw = Text.of "round" :=
    eq_round_of_selector (trimmed_selector _) hselector
  have hcomparison : Comparison.ofText (Predicate.cutNegation (trim raw)).2 =
      ⟨some operator, "round", some value⟩ := by
    rw [← hoperator, ← hround, ← hvalue]
    rfl
  obtain ⟨w, t, hw, hbody, hstarts⟩ := startsRound_of_comparison hcomparison hmem hne
  calc roundBadge (Predicate.ofText raw).raw = roundBadge (Predicate.cutNegation (trim raw)).2 :=
        (roundBadge_cutNegation (trim raw)).symm
    _ = roundBadge t := by rw [hbody, roundBadge_blank_append hw]
    _ = _ := badgeFrom_of_startsRound hstarts

/-- The text of a predicate holds a comparison of the round that is not the one the predicate makes. -/
def Stray (p : Predicate) : Prop :=
  roundComparison? p = none ∧ ∃ i operator digits, RoundAt false p.raw i operator digits

theorem roundBadge_ne_none_iff {t : Text} :
    roundBadge t ≠ none ↔ ∃ i operator digits, RoundAt false t i operator digits := by
  constructor
  · intro h
    obtain ⟨b, hb⟩ := Option.ne_none_iff_exists'.1 h
    obtain ⟨i, operator, digits, hat, -⟩ := badgeFrom_eq_some_iff.1 hb
    exact ⟨i, operator, digits, hat⟩
  · classical
    intro h
    obtain ⟨operator, digits, hat⟩ := Nat.find_spec h
    have hfirst : ∀ j < Nat.find h, ∀ operator' digits', ¬ RoundAt false t j operator' digits' :=
      fun j hj operator' digits' hat' => Nat.find_min h hj ⟨operator', digits', hat'⟩
    have hb := badgeFrom_eq_some_iff.2 ⟨Nat.find h, operator, digits, hat, hfirst, rfl⟩
    rw [roundBadge, hb]
    exact Option.some_ne_none _

theorem roundBadge_raw_ne_none_iff (raw : Text) :
    roundBadge (Predicate.ofText raw).raw ≠ none ↔
      roundComparison? (Predicate.ofText raw) ≠ none ∨ Stray (Predicate.ofText raw) := by
  cases hcomparison : roundComparison? (Predicate.ofText raw) with
  | none => simp [Stray, hcomparison, roundBadge_ne_none_iff]
  | some r =>
    have hbadge := roundBadge_of_roundComparison? hcomparison
    simp [hbadge]

theorem exists_ofText {raw : Text} {p : Predicate} (h : p ∈ (Condition.ofText raw).predicates) :
    ∃ piece, Predicate.ofText piece = p := by
  obtain ⟨piece, -, heq⟩ := List.mem_map.1 h
  exact ⟨piece, heq⟩

theorem findSome?_eq_of_takeWhile {f g : α → Option β} {xs : List α}
    (hsame : ∀ a ∈ xs, g a ≠ none → f a = g a)
    (hbefore : ∀ a ∈ xs.takeWhile fun a => (g a).isNone, f a = none) :
    xs.findSome? f = xs.findSome? g := by
  induction xs with
  | nil => rfl
  | cons a xs ih =>
    obtain ⟨ha, hxs⟩ := List.forall_mem_cons.1 hsame
    cases hg : g a with
    | some b =>
      have hf : f a = some b := by
        rw [ha (by rw [hg]; exact Option.some_ne_none b), hg]
      rw [List.findSome?_cons, List.findSome?_cons, hf, hg]
    | none =>
      rw [List.takeWhile_cons_of_pos (by rw [hg]; rfl)] at hbefore
      obtain ⟨hf, hbefore⟩ := List.forall_mem_cons.1 hbefore
      rw [List.findSome?_cons, List.findSome?_cons, hf, hg]
      exact ih hxs hbefore

/-- A condition has a badge exactly if one of its predicates compares the round or seems to in its text; the
badge is that of the first place in the text. It is the one of the first predicate that compares the round,
if none before that only seems to. -/
theorem roundBadge_reading (raw : Text) :
    (roundBadge raw ≠ none ↔
      ∃ p ∈ (Condition.ofText raw).predicates, roundComparison? p ≠ none ∨ Stray p) ∧
    (∀ b, roundBadge raw = some b ↔
      ∃ i operator digits, RoundAt false raw i operator digits ∧
        (∀ j < i, ∀ operator' digits', ¬ RoundAt false raw j operator' digits') ∧
        b = badge operator digits) ∧
    ((∀ p ∈ (Condition.ofText raw).predicates.takeWhile fun p => (roundComparison? p).isNone, ¬ Stray p) →
      roundBadge raw =
        ((Condition.ofText raw).predicates.findSome? roundComparison?).map fun r => badge r.1 r.2) := by
  refine ⟨?_, fun b => badgeFrom_eq_some_iff, fun hbefore => ?_⟩
  · rw [roundBadge_eq_findSome?, Ne, List.findSome?_eq_none_iff]
    push Not
    constructor
    · rintro ⟨p, hp, hbadge⟩
      obtain ⟨piece, rfl⟩ := exists_ofText hp
      exact ⟨_, hp, (roundBadge_raw_ne_none_iff piece).1 hbadge⟩
    · rintro ⟨p, hp, hround⟩
      obtain ⟨piece, rfl⟩ := exists_ofText hp
      exact ⟨_, hp, (roundBadge_raw_ne_none_iff piece).2 hround⟩
  · rw [roundBadge_eq_findSome?, List.map_findSome?]
    apply findSome?_eq_of_takeWhile
    · intro p hp hne
      obtain ⟨piece, rfl⟩ := exists_ofText hp
      cases hcomparison : roundComparison? (Predicate.ofText piece) with
      | none => simp [hcomparison] at hne
      | some r => simp [hcomparison, roundBadge_of_roundComparison? hcomparison]
    · intro p hp
      simp only [Function.comp_apply, Option.isNone_map] at hp
      have hnone : (roundComparison? p).isNone :=
        List.mem_takeWhile_imp (p := fun p => (roundComparison? p).isNone) hp
      obtain ⟨piece, rfl⟩ := exists_ofText (List.takeWhile_subset _ hp)
      by_contra hbadge
      rcases (roundBadge_raw_ne_none_iff piece).1 hbadge with hcompares | hstray
      · exact hcompares (Option.isNone_iff_eq_none.1 hnone)
      · exact hbefore _ hp hstray

theorem roundBadge_reading_negated :
    let raw := Text.of "weather=Sun & !round >= 3 & self.round=9"
    (∀ p ∈ (Condition.ofText raw).predicates.takeWhile fun p => (roundComparison? p).isNone, ¬ Stray p) ∧
      roundBadge raw = some "R>=3" := by
  intro raw
  have hbefore : ((Condition.ofText raw).predicates.takeWhile fun p => (roundComparison? p).isNone) =
      [Predicate.ofText "weather=Sun"] := by decide +kernel
  have hstray : ∀ p ∈ (Condition.ofText raw).predicates.takeWhile fun p => (roundComparison? p).isNone,
      ¬ Stray p := by
    rw [hbefore]
    rintro p hp ⟨-, hat⟩
    obtain rfl := List.mem_singleton.1 hp
    exact roundBadge_ne_none_iff.2 hat (by decide +kernel)
  refine ⟨hstray, ((roundBadge_reading raw).2.2 hstray).trans ?_⟩
  decide +kernel

/-- A property of a pet that is called as the round is has the badge of one. -/
theorem roundBadge_of_property :
    roundBadge "enemy.round=3" = some "R3" ∧
      (Condition.ofText "enemy.round=3").predicates.map Predicate.selector =
        [some (.pet ⟨.enemy, none⟩ "round")] ∧
      (Condition.ofText "enemy.round=3").predicates.findSome? roundComparison? = none := by
  decide +kernel

end BattleScript.English
