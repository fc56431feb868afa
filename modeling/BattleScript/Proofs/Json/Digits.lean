import Mathlib.Data.List.Infix
import Mathlib.Tactic.SplitIfs
import BattleScript.Json.Reader

/-!
Whole numbers of too many digits. Every reader leaves an end of the text it was given, so the number
at which reading stops is written somewhere in the document, as one run of digits.
-/
namespace BattleScript.Json
open Text

def HasDigitRun (n : Nat) (t : Symbols) : Prop :=
  ∃ run : Text, run.symbols <:+: t ∧ run.all isDecimal = true ∧ run.length = n

theorem HasDigitRun.mono {n : Nat} {s t : Symbols} (h : HasDigitRun n s) (hst : s <:+: t) :
    HasDigitRun n t := by
  obtain ⟨run, hrun, hdigits, hlength⟩ := h
  exact ⟨run, hrun.trans hst, hdigits, hlength⟩

theorem HasDigitRun.le_length {n : Nat} {t : Symbols} (h : HasDigitRun n t) : n ≤ t.length := by
  obtain ⟨run, hrun, -, rfl⟩ := h
  have hlength := hrun.length_le
  rwa [symbols, List.length_map] at hlength

/-- What is left of `t` is an end of it, and a number that was refused stands in it. -/
def ReadsWithin {α : Type} (t : Symbols) : Read α → Prop
  | .ok (_, rest) => rest <:+ t
  | .error (.tooManyDigits n) => digitLimit < n ∧ HasDigitRun n t
  | .error (.expected _ _) => True

section Readers
variable {α β : Type} {s t : Symbols}

theorem ReadsWithin.mono {r : Read α} (h : ReadsWithin s r) (hst : s <:+ t) : ReadsWithin t r := by
  match r, h with
  | .ok (_, rest), h => exact List.IsSuffix.trans h hst
  | .error (.tooManyDigits n), h => exact ⟨h.1, h.2.mono hst.isInfix⟩
  | .error (.expected _ _), _ => trivial

theorem ReadsWithin.map {r : Read α} (h : ReadsWithin t r) {f : α × Symbols → β × Symbols}
    (hf : ∀ p, (f p).2 = p.2) : ReadsWithin t (r.map f) := by
  match r, h with
  | .ok p, h =>
    have hrest : (f p).2 <:+ t := hf p ▸ h
    exact hrest
  | .error (.tooManyDigits n), h => exact h
  | .error (.expected _ _), _ => trivial

theorem ReadsWithin.cases {r : Read α} (h : ReadsWithin t r) :
    (∃ e, r = .error e ∧ ∀ β, ReadsWithin t (.error e : Read β)) ∨
      ∃ v rest, r = .ok (v, rest) ∧ rest <:+ t := by
  match r, h with
  | .ok (v, rest), h => exact .inr ⟨v, rest, rfl, h⟩
  | .error (.tooManyDigits n), h => exact .inl ⟨_, rfl, fun _ => h⟩
  | .error (.expected _ _), _ => exact .inl ⟨_, rfl, fun _ => trivial⟩

theorem skipSpace_suffix (t : Symbols) : skipSpace t <:+ t :=
  List.dropWhile_suffix isSpace

theorem suffix_of_skipSpace {s : Symbol} {rest : Symbols} (h : skipSpace t = s :: rest) : rest <:+ t :=
  (List.suffix_cons s rest).trans (h ▸ skipSpace_suffix t)

theorem readsWithin_readChars (start : Nat) (t : Symbols) : ReadsWithin t (readChars start t) := by
  fun_induction readChars start t with
  | case2 r => exact List.suffix_cons _ r
  | case6 a b c d n _ _ a' b' c' d' e r _ _ _ _ ih =>
    exact (ih.mono ⟨[.char '\\', .char 'u', a, b, c, d, .char '\\', .char 'u', a', b', c', d'], rfl⟩).map
      fun _ => rfl
  | case7 a b c d _ _ _ _ _ _ _ _ _ _ _ _ _ ih =>
    exact (ih.mono ⟨[.char '\\', .char 'u', a, b, c, d], rfl⟩).map fun _ => rfl
  | case8 a b c d _ _ _ _ _ _ ih =>
    exact (ih.mono ⟨[.char '\\', .char 'u', a, b, c, d], rfl⟩).map fun _ => rfl
  | case9 a b c d _ _ _ _ _ ih =>
    exact (ih.mono ⟨[.char '\\', .char 'u', a, b, c, d], rfl⟩).map fun _ => rfl
  | case12 s _ _ _ _ _ ih => exact (ih.mono ⟨[.char '\\', s], rfl⟩).map fun _ => rfl
  | case15 s _ _ _ _ _ _ ih => exact (ih.mono (List.suffix_cons s _)).map fun _ => rfl
  | _ => exact trivial

theorem run_append (p : Char → Bool) (t : Symbols) : (t.run p).1.symbols ++ (t.run p).2 = t := by
  fun_induction Symbols.run p t with
  | case1 c t _ ih => exact congrArg (_ :: ·) ih
  | _ => rfl

end Readers

section Numerals
variable {t : Text}

theorem readWord?_suffix {v : Json Symbols} {rest : Text} (h : readWord? t = some (v, rest)) : rest <:+ t := by
  obtain ⟨⟨word, value⟩, -, hword⟩ := List.exists_of_findSome?_eq_some h
  obtain ⟨r, hr, heq⟩ := Option.map_eq_some_iff.1 hword
  cases heq
  exact ⟨word, (after?_eq_some_iff.1 hr).symm⟩

theorem span_isDecimal (t : Text) :
    (t.span isDecimal).1 ++ (t.span isDecimal).2 = t ∧ (t.span isDecimal).1.all isDecimal = true := by
  rw [List.span_eq_takeWhile_dropWhile]
  exact ⟨List.takeWhile_append_dropWhile, List.all_takeWhile⟩

theorem span_suffix (t : Text) : (t.span isDecimal).2 <:+ t :=
  ⟨_, (span_isDecimal t).1⟩

theorem readWhole_eq {whole rest : Text} (h : readWhole t = some (whole, rest)) :
    whole ++ rest = t ∧ whole.all isDecimal = true := by
  unfold readWhole at h
  split at h
  · cases h
    exact ⟨rfl, by decide⟩
  · split at h
    · cases h
    · have hspan : t.span isDecimal = (whole, rest) := Option.some.inj h
      have hdigits := span_isDecimal t
      rw [hspan] at hdigits
      exact hdigits

theorem readFraction_suffix (t : Text) : (readFraction t).2 <:+ t := by
  unfold readFraction
  split
  · rename_i r
    split
    · exact List.suffix_rfl
    · exact (span_suffix r).trans (List.suffix_cons _ r)
  · exact List.suffix_rfl

theorem readSign_suffix (t : Text) : (readSign t).2 <:+ t := by
  unfold readSign
  split
  · exact List.suffix_cons _ _
  · exact List.suffix_cons _ _
  · exact List.suffix_rfl

theorem readExponent_suffix (t : Text) : (readExponent t).2 <:+ t := by
  unfold readExponent
  split
  · rename_i c r
    split_ifs
    · dsimp only
      split
      · exact List.suffix_rfl
      · rename_i digits rest _ hspan
        have hrest : rest <:+ (readSign r).2 := by
          have h := span_suffix (readSign r).2
          rwa [hspan] at h
        exact (hrest.trans (readSign_suffix r)).trans (List.suffix_cons c r)
    · exact List.suffix_rfl
  · exact List.suffix_rfl

theorem readNumeral?_eq {n : Numeral} {rest : Text} (h : readNumeral? t = some (n, rest)) :
    rest <:+ t ∧ n.whole <:+: t ∧ n.whole.all isDecimal = true := by
  -- The digits are read behind the sign, if there is one.
  obtain ⟨body, hbody, whole, after, hwhole, hrest, hn⟩ : ∃ body, body <:+ t ∧ ∃ whole after,
      readWhole body = some (whole, after) ∧
        rest = (readExponent (readFraction after).2).2 ∧ n.whole = whole := by
    unfold readNumeral? at h
    dsimp only at h
    split at h
    · cases h
    · rename_i whole after hwhole
      cases h
      refine ⟨_, ?_, whole, after, hwhole, rfl, rfl⟩
      split
      · exact List.suffix_cons _ _
      · exact List.suffix_rfl
  obtain ⟨hcut, hdigits⟩ := readWhole_eq hwhole
  have hafter : after <:+ t := List.IsSuffix.trans ⟨whole, hcut⟩ hbody
  refine ⟨?_, ?_, hn ▸ hdigits⟩
  · rw [hrest]
    exact ((readExponent_suffix _).trans (readFraction_suffix after)).trans hafter
  · have hfront : whole <+: body := ⟨after, hcut⟩
    exact hn ▸ hfront.isInfix.trans hbody.isInfix

theorem readsWithin_value {n : Numeral} {rest document : Symbols} (hrest : rest <:+ document)
    (hwhole : n.whole.symbols <:+: document) (hdigits : n.whole.all isDecimal = true) :
    ReadsWithin document (n.value.map fun v => (v, rest)) := by
  unfold Numeral.value
  split
  · by_cases hlong : n.whole.length > digitLimit
    · rw [if_pos hlong]
      exact ⟨hlong, n.whole, hwhole, hdigits, rfl⟩
    · rw [if_neg hlong]
      exact hrest
  · exact hrest

theorem symbols_append_suffix {rest front : Text} (h : rest <:+ front) (behind : Symbols) :
    rest.symbols ++ behind <:+ front.symbols ++ behind := by
  obtain ⟨cut, rfl⟩ := h
  rw [symbols_append, List.append_assoc]
  exact List.suffix_append _ _

theorem symbols_infix_append {whole front : Text} (h : whole <:+: front) (behind : Symbols) :
    whole.symbols <:+: front.symbols ++ behind :=
  (h.map Symbol.char).trans (List.prefix_append _ behind).isInfix

theorem readsWithin_readScalar (t : Symbols) : ReadsWithin t (readScalar t) := by
  have hrun := run_append isScalarChar t
  unfold readScalar
  dsimp only
  split
  · rename_i v rest hword
    have hrest := symbols_append_suffix (readWord?_suffix hword) (t.run isScalarChar).2
    rwa [hrun] at hrest
  · split
    · rename_i n rest hnumeral
      obtain ⟨hrest, hwhole, hdigits⟩ := readNumeral?_eq hnumeral
      have hbehind := symbols_append_suffix hrest (t.run isScalarChar).2
      have hnumber := symbols_infix_append hwhole (t.run isScalarChar).2
      rw [hrun] at hbehind hnumber
      exact readsWithin_value hbehind hnumber hdigits
    · exact trivial

end Numerals

section Documents
variable {fuel : Nat}

structure AllReadWithin (fuel : Nat) : Prop where
  value : ∀ t, ReadsWithin t (readValue fuel t)
  items : ∀ t, ReadsWithin t (readItems fuel t)
  fields : ∀ seen t, ReadsWithin t (readFields fuel seen t)

theorem AllReadWithin.readValue_succ (h : AllReadWithin fuel) (t : Symbols) :
    ReadsWithin t (readValue (fuel + 1) t) := by
  unfold readValue
  split
  · rename_i r
    exact ((readsWithin_readChars _ r).mono (List.suffix_cons _ r)).map fun _ => rfl
  · rename_i r
    split
    · rename_i hskip
      exact (suffix_of_skipSpace hskip).trans (List.suffix_cons _ r)
    · have hitems := (h.items (skipSpace r)).mono (skipSpace_suffix r)
      exact (hitems.mono (List.suffix_cons _ r)).map fun _ => rfl
  · rename_i r
    split
    · rename_i hskip
      exact (suffix_of_skipSpace hskip).trans (List.suffix_cons _ r)
    · have hfields := (h.fields [] (skipSpace r)).mono (skipSpace_suffix r)
      exact (hfields.mono (List.suffix_cons _ r)).map fun _ => rfl
  · exact readsWithin_readScalar t

theorem AllReadWithin.readItems_succ (h : AllReadWithin fuel) (t : Symbols) :
    ReadsWithin t (readItems (fuel + 1) t) := by
  unfold readItems
  obtain ⟨e, he, hfault⟩ | ⟨v, r, hv, hr⟩ := (h.value t).cases
  · rw [he]
    exact hfault _
  rw [hv]
  dsimp only
  split
  · rename_i hskip
    exact (suffix_of_skipSpace hskip).trans hr
  · rename_i rest hskip
    have hrest := (suffix_of_skipSpace hskip).trans hr
    exact ((h.items (skipSpace rest)).mono ((skipSpace_suffix rest).trans hrest)).map fun _ => rfl
  · exact trivial

theorem AllReadWithin.readFields_succ (h : AllReadWithin fuel)
    (seen : List (Symbols × Json Symbols)) (t : Symbols) :
    ReadsWithin t (readFields (fuel + 1) seen t) := by
  unfold readFields
  split
  · rename_i r
    refine ReadsWithin.mono ?_ (List.suffix_cons _ r)
    obtain ⟨e, he, hfault⟩ | ⟨key, afterKey, hkey, hafterKey⟩ :=
      (readsWithin_readChars (r.length + 1) r).cases
    · rw [he]
      exact hfault _
    rw [hkey]
    dsimp only
    split
    · rename_i afterColon hskip
      have hcolon := (suffix_of_skipSpace hskip).trans hafterKey
      refine ReadsWithin.mono ?_ ((skipSpace_suffix afterColon).trans hcolon)
      obtain ⟨e, he, hfault⟩ | ⟨v, afterValue, hv, hafterValue⟩ := (h.value (skipSpace afterColon)).cases
      · rw [he]
        exact hfault _
      rw [hv]
      dsimp only
      split
      · rename_i hskip
        exact (suffix_of_skipSpace hskip).trans hafterValue
      · rename_i afterComma hskip
        have hcomma := (suffix_of_skipSpace hskip).trans hafterValue
        exact (h.fields _ _).mono ((skipSpace_suffix afterComma).trans hcomma)
      · exact trivial
    · exact trivial
  · exact trivial

theorem allReadWithin (fuel : Nat) : AllReadWithin fuel := by
  induction fuel with
  | zero => exact ⟨fun _ => trivial, fun _ => trivial, fun _ _ => trivial⟩
  | succ fuel ih => exact ⟨ih.readValue_succ, ih.readItems_succ, ih.readFields_succ⟩

theorem hasDigitRun_of_read {t : Symbols} {n : Nat} (h : read t = .error (.tooManyDigits n)) :
    digitLimit < n ∧ HasDigitRun n t := by
  have hvalue := (allReadWithin (2 * t.length + 2)).value (skipSpace t)
  unfold read at h
  by_cases hmark : t.head? = some (.char '\uFEFF')
  · rw [if_pos hmark] at h
    cases h
  · rw [if_neg hmark] at h
    split at h
    · rename_i hread
      cases h
      rw [hread] at hvalue
      exact hvalue.mono (skipSpace_suffix t)
    · split at h <;> cases h

end Documents

def onesObject (n : Nat) : Text :=
  '\x7b' :: '"' :: '1' :: '"' :: ':' :: (List.replicate n '1' ++ ['\x7d'])

theorem readWhole_ones (n : Nat) :
    readWhole (List.replicate (n + 1) '1') = some (List.replicate (n + 1) '1', []) := by
  have hspan : (List.replicate (n + 1) '1').span isDecimal = (List.replicate (n + 1) '1', []) := by
    rw [List.span_eq_takeWhile_dropWhile, List.takeWhile_replicate, List.dropWhile_replicate]
    rfl
  rw [readWhole, hspan]
  · rfl
  · intro r hr
    cases hr

theorem readNumeral?_of_whole {c : Char} {r whole rest : Text} (hc : c ≠ '-')
    (h : readWhole (c :: r) = some (whole, rest)) :
    readNumeral? (c :: r) = some (⟨false, whole, (readFraction rest).1,
      (readExponent (readFraction rest).2).1⟩, (readExponent (readFraction rest).2).2) := by
  unfold readNumeral?
  split
  rename_i negative body hbody
  split at hbody
  · rename_i hminus
    exact absurd (List.cons.inj hminus).1 hc
  · cases hbody
    rw [h]

theorem run_ones (n : Nat) (s : Symbols) (hs : s.run isScalarChar = ([], s)) :
    (symbols (List.replicate n '1') ++ s).run isScalarChar = (List.replicate n '1', s) := by
  induction n with
  | zero => exact hs
  | succ n ih =>
    rw [List.replicate_succ, symbols, List.map_cons, ← symbols, List.cons_append, Symbols.run, ih]
    rfl

theorem readScalar_ones {n : Nat} (hn : digitLimit < n + 1) :
    readScalar (symbols (List.replicate (n + 1) '1') ++ [.char '\x7d']) = .error (.tooManyDigits (n + 1)) := by
  have hrun := run_ones (n + 1) [.char '\x7d'] rfl
  have hword : readWord? (List.replicate (n + 1) '1') = none := rfl
  have hnumeral : readNumeral? (List.replicate (n + 1) '1') =
      some (⟨false, List.replicate (n + 1) '1', [], none⟩, []) :=
    readNumeral?_of_whole (by decide) (readWhole_ones n)
  have hvalue : Numeral.value ⟨false, List.replicate (n + 1) '1', [], none⟩ =
      .error (.tooManyDigits (n + 1)) := by
    simp only [Numeral.value, List.length_replicate, hn, if_true]
  rw [readScalar, hrun]
  dsimp only
  rw [hword, hnumeral]
  dsimp only
  rw [hvalue]
  rfl

theorem readFields_of_value {fuel : Nat} {body : Symbols} {e : Fault}
    (h : readValue fuel (skipSpace body) = .error e) :
    readFields (fuel + 1) [] (symbols ['"', '1', '"', ':'] ++ body) = .error e := by
  have hkey : readChars (List.length (symbols ['1', '"', ':'] ++ body) + 1)
      (symbols ['1', '"', ':'] ++ body) = .ok ([.char '1'], .char ':' :: body) := rfl
  have hskip : skipSpace (.char ':' :: body) = .char ':' :: body := rfl
  change readFields (fuel + 1) [] (.char '"' :: (symbols ['1', '"', ':'] ++ body)) = _
  simp only [readFields, hkey, hskip, h]

theorem symbols_onesObject (n : Nat) : symbols (onesObject n) =
    symbols ['\x7b', '"', '1', '"', ':'] ++ (symbols (List.replicate n '1') ++ [.char '\x7d']) := by
  rw [onesObject]
  simp only [symbols, List.map_append, List.map_cons, List.map_nil, List.cons_append, List.nil_append]

theorem read_onesObject {n : Nat} (hn : digitLimit < n) :
    read (onesObject n).symbols = .error (.tooManyDigits n) := by
  obtain ⟨n, rfl⟩ : ∃ k, n = k + 1 := ⟨n - 1, by omega⟩
  have hvalue : readValue (2 * n + 13 + 1) (symbols (List.replicate (n + 1) '1') ++ [.char '\x7d']) =
      .error (.tooManyDigits (n + 1)) := readScalar_ones hn
  have hbody : skipSpace (symbols (List.replicate (n + 1) '1') ++ [.char '\x7d']) =
      symbols (List.replicate (n + 1) '1') ++ [.char '\x7d'] := rfl
  have hfields := readFields_of_value (hbody.symm ▸ hvalue)
  have hobject : readValue (2 * n + 13 + 1 + 1 + 1) (onesObject (n + 1)).symbols =
      .error (.tooManyDigits (n + 1)) := by
    rw [symbols_onesObject]
    exact congrArg (Except.map _) hfields
  have hfuel : 2 * (onesObject (n + 1)).symbols.length + 2 = 2 * n + 13 + 1 + 1 + 1 := by
    simp only [symbols, onesObject, List.length_map, List.length_cons, List.length_append,
      List.length_replicate, List.length_nil]
    omega
  have hskip : skipSpace (onesObject (n + 1)).symbols = (onesObject (n + 1)).symbols := rfl
  have hmark : (onesObject (n + 1)).symbols.head? ≠ some (.char '\uFEFF') := by
    intro h
    exact absurd (Option.some.inj h) (by decide)
  rw [read, if_neg hmark, hskip, hfuel, hobject]

end BattleScript.Json
