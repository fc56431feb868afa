import Mathlib.Tactic.SplitIfs
import BattleScript.Json.Reader
import BattleScript.Json.Writer

/-!
Strings and objects of strings in JSON. A character is written as itself, behind a backslash or by its
number, and each of these is read as that character. The fields of an object are read in the order in
which they are written, as long as no key comes twice.
-/
namespace BattleScript.Json
open Text

inductive EscapedForm (c : Char) : Text → Prop
  | simple {e : Char} (h : simpleEscape? (.char e) = some c) : EscapedForm c ['\\', e]
  | number {a b d e : Char} (h : hexValue? [a, b, d, e] = some c.toNat) (hc : c.toNat < 0x20)
      (hreturn : '\r' ∉ [a, b, d, e]) : EscapedForm c ['\\', 'u', a, b, d, e]
  | plain (hquote : c ≠ '"') (hbackslash : c ≠ '\\') (hc : ¬ c.toNat < 0x20) : EscapedForm c [c]

theorem ofHex_control : ∀ n < 0x20, hexValue? (ofHex 4 n) = some n ∧ (ofHex 4 n).length = 4 ∧
    '\r' ∉ ofHex 4 n := by
  decide

theorem escapedForm_control {c : Char} (hc : c.toNat < 0x20) :
    EscapedForm c ("\\u" ++ ofHex 4 c.toNat) := by
  obtain ⟨hvalue, hlength, hreturn⟩ := ofHex_control c.toNat hc
  match hdigits : ofHex 4 c.toNat, hlength with
  | [a, b, d, e], _ =>
    rw [hdigits] at hvalue hreturn
    exact .number hvalue hc hreturn

theorem escapedForm_escapedChar (c : Char) : EscapedForm c (escapedChar c) := by
  unfold escapedChar
  split_ifs with h1 h2 h3 h4 h5 h6 h7 h8
  · subst h1; exact .simple rfl
  · subst h2; exact .simple rfl
  · subst h3; exact .simple rfl
  · subst h4; exact .simple rfl
  · subst h5; exact .simple rfl
  · subst h6; exact .simple rfl
  · subst h7; exact .simple rfl
  · exact escapedForm_control h8
  · exact .plain h1 h2 h8

theorem readChars_simple {e : Symbol} {c : Char} (h : simpleEscape? e = some c) (start : Nat)
    (x : Symbols) :
    readChars start (.char '\\' :: e :: x) = (readChars start x).map fun p => (.char c :: p.1, p.2) := by
  have hu : e ≠ .char 'u' := by
    rintro rfl
    cases h
  rw [readChars, if_neg hu, h]
  exact fun _ _ _ _ _ he => absurd he hu

theorem isHighSurrogate_control {n : Nat} (h : n < 0x20) : isHighSurrogate n = false := by
  simp only [isHighSurrogate, Bool.and_eq_false_iff, decide_eq_false_iff_not]
  omega

theorem readChars_number {a b d e c : Char} (h : hexValue? [a, b, d, e] = some c.toNat)
    (hc : c.toNat < 0x20) (start : Nat) {x : Symbols} (hx : x ≠ []) :
    readChars start (symbols ['\\', 'u', a, b, d, e] ++ x) =
      (readChars start x).map fun p => (.char c :: p.1, p.2) := by
  have hdigits : hex4? (.char a) (.char b) (.char d) (.char e) = some c.toNat := h
  have hsymbol : Symbol.ofNumber c.toNat = .char c := by
    rw [Symbol.ofNumber_of_lt (by omega), Char.ofNat_toNat]
  change readChars start (.char '\\' :: .char 'u' :: .char a :: .char b :: .char d :: .char e :: x) = _
  rw [readChars, hdigits]
  simp only [hx, isHighSurrogate_control hc, hsymbol, if_false, Bool.false_eq_true]

theorem readChars_plain {s : Symbol} (hquote : s ≠ .char '"') (hbackslash : s ≠ .char '\\')
    (hs : ¬ s.number < 0x20) (start : Nat) (x : Symbols) :
    readChars start (s :: x) = (readChars start x).map fun p => (s :: p.1, p.2) := by
  rw [readChars, if_neg hbackslash, if_neg hs]
  · exact hquote
  · exact fun _ _ _ _ _ he => absurd he hbackslash
  · exact fun _ _ he => absurd he hbackslash

theorem readChars_escapedChar (start : Nat) (c : Char) {x : Symbols} (hx : x ≠ []) :
    readChars start ((escapedChar c).symbols ++ x) =
      (readChars start x).map fun p => (.char c :: p.1, p.2) := by
  have hform := escapedForm_escapedChar c
  generalize escapedChar c = w at hform
  cases hform with
  | simple h => exact readChars_simple h start x
  | number h hc _ => exact readChars_number h hc start hx
  | plain hquote hbackslash hc =>
    exact readChars_plain (mt Symbol.char.inj hquote) (mt Symbol.char.inj hbackslash) hc start x

theorem readChars_escaped (start : Nat) (s : Symbol) {x : Symbols} (hx : x ≠ []) :
    readChars start (Letter.escaped s ++ x) = (readChars start x).map fun p => (s :: p.1, p.2) := by
  cases s with
  | char c => exact readChars_escapedChar start c hx
  | half h =>
    have hchar (c : Char) : Symbol.half h ≠ .char c := nofun
    have hnumber : 0x20 ≤ (Symbol.half h).number := Nat.le_add_right_of_le (by decide)
    exact readChars_plain (hchar '"') (hchar '\\') (Nat.not_lt.2 hnumber) start x

theorem readChars_flatMap (start : Nat) (t r : Symbols) :
    readChars start (t.flatMap Letter.escaped ++ .char '"' :: r) = .ok (t, r) := by
  induction t with
  | nil => rw [List.flatMap_nil, List.nil_append, readChars]
  | cons s t ih =>
    rw [List.flatMap_cons, List.append_assoc, readChars_escaped start s (by simp), ih]
    rfl

section Fields
variable {σ : Type}

def stringFields (entries : List (σ × σ)) : List (σ × Json σ) :=
  entries.map fun p => (p.1, .string p.2)

theorem stringFields_cons (k v : σ) (entries : List (σ × σ)) :
    stringFields ((k, v) :: entries) = (k, .string v) :: stringFields entries := rfl

theorem length_stringFields (entries : List (σ × σ)) : (stringFields entries).length = entries.length :=
  List.length_map _

end Fields

theorem letters_singleton_append (c : Char) (t : Symbols) : letters [c] ++ t = .char c :: t := rfl

theorem quotedString_append (t r : Symbols) :
    quotedString t ++ r = .char '"' :: (t.flatMap Letter.escaped ++ .char '"' :: r) := by
  rw [quotedString, List.append_assoc, List.append_assoc]
  rfl

theorem readValue_quotedString (fuel : Nat) (t r : Symbols) :
    readValue (fuel + 1) (quotedString t ++ r) = .ok (.string t, r) := by
  rw [quotedString_append, readValue, readChars_flatMap]
  rfl

theorem skipSpace_append {w : Symbols} (hw : ∀ s ∈ w, isSpace s) (t : Symbols) :
    skipSpace (w ++ t) = skipSpace t := by
  rw [skipSpace, List.dropWhile_append_of_pos hw]
  rfl

theorem skipSpace_cons {s : Symbol} (hs : isSpace s = false) (t : Symbols) :
    skipSpace (s :: t) = s :: t := by
  rw [skipSpace, List.dropWhile_cons_of_neg (by rw [hs]; exact Bool.false_ne_true)]

theorem skipSpace_newLine (depth : Nat) (t : Symbols) : skipSpace (newLine depth ++ t) = skipSpace t := by
  apply skipSpace_append
  intro s hs
  obtain ⟨c, hc, rfl⟩ := List.mem_map.1 hs
  rcases List.mem_cons.1 hc with rfl | hc
  · rfl
  · rw [List.eq_of_mem_replicate hc]
    rfl

theorem skipSpace_quotedString (t r : Symbols) :
    skipSpace (quotedString t ++ r) = quotedString t ++ r := by
  rw [quotedString_append, skipSpace_cons rfl]

theorem skipSpace_colon (t : Symbols) :
    skipSpace (letters ": " ++ t) = .char ':' :: .char ' ' :: t :=
  skipSpace_cons rfl _

theorem skipSpace_space (t : Symbols) : skipSpace (.char ' ' :: t) = skipSpace t :=
  skipSpace_append (w := [.char ' ']) (List.all_eq_true.1 rfl) t

theorem readFields_last (fuel : Nat) (seen : List (Symbols × Json Symbols)) (k v : Symbols)
    {rest r : Symbols} (hrest : skipSpace rest = .char '\x7d' :: r) :
    readFields (fuel + 2) seen (quotedString k ++ (letters ": " ++ (quotedString v ++ rest))) =
      .ok (Assoc.put k (.string v) seen, r) := by
  rw [quotedString_append k, readFields, readChars_flatMap]
  simp only [skipSpace_colon, skipSpace_space, skipSpace_quotedString, readValue_quotedString, hrest]

theorem readFields_next (fuel : Nat) (seen : List (Symbols × Json Symbols)) (k v : Symbols)
    {rest r : Symbols} (hrest : skipSpace rest = .char ',' :: r) :
    readFields (fuel + 2) seen (quotedString k ++ (letters ": " ++ (quotedString v ++ rest))) =
      readFields (fuel + 1) (Assoc.put k (.string v) seen) (skipSpace r) := by
  rw [quotedString_append k, readFields, readChars_flatMap]
  simp only [skipSpace_colon, skipSpace_space, skipSpace_quotedString, readValue_quotedString, hrest]

section Written
variable {α : Type} [Letter α]

theorem writeFields_strings_append (depth : Nat) (k v : List α) (entries : List (List α × List α))
    (r : List α) :
    writeFields depth (stringFields ((k, v) :: entries)) ++ r =
      letters [','] ++ (newLine depth ++ (quotedString k ++ (letters ": " ++ (quotedString v ++
        (writeFields depth (stringFields entries) ++ r))))) := by
  rw [stringFields_cons, writeFields, write]
  simp only [List.append_assoc]

theorem write_strings_append (depth : Nat) (k v : List α) (entries : List (List α × List α))
    (r : List α) :
    write depth (.object (stringFields ((k, v) :: entries))) ++ r =
      letters ['\x7b'] ++ (newLine (depth + 1) ++ (quotedString k ++ (letters ": " ++ (quotedString v ++
        (writeFields (depth + 1) (stringFields entries) ++ (newLine depth ++ (letters ['\x7d'] ++ r))))))) := by
  rw [stringFields_cons, write, write]
  simp only [List.append_assoc]

theorem length_letters (t : Text) : (letters t : List α).length = t.length :=
  List.length_map _

theorem length_le_length_writeFields (depth : Nat) (fields : List (List α × Json (List α))) :
    fields.length ≤ (writeFields depth fields).length := by
  induction fields with
  | nil => exact Nat.zero_le _
  | cons field fields ih =>
    simp only [writeFields, List.length_cons, List.length_append, length_letters]
    omega

theorem length_lt_length_write (depth : Nat) (entries : List (List α × List α)) :
    entries.length < (write depth (.object (stringFields entries))).length := by
  cases entries with
  | nil => exact Nat.zero_lt_two
  | cons entry entries =>
    have hfields := length_le_length_writeFields (depth + 1) (stringFields entries)
    rw [length_stringFields] at hfields
    rw [← List.append_nil (write depth _), write_strings_append]
    simp only [List.length_cons, List.length_append, length_letters]
    omega

end Written

theorem readFields_strings (depth depth' : Nat) (entries : List (Symbols × Symbols)) (r : Symbols)
    (fuel : Nat) (hfuel : entries.length ≤ fuel) (seen : List (Symbols × Json Symbols)) (k v : Symbols)
    (hkeys : (Assoc.keys (seen ++ stringFields ((k, v) :: entries))).Nodup) :
    readFields (fuel + 2) seen (quotedString k ++ (letters ": " ++ (quotedString v ++
        (writeFields depth (stringFields entries) ++ (newLine depth' ++ .char '\x7d' :: r))))) =
      .ok (seen ++ stringFields ((k, v) :: entries), r) := by
  -- What has been read grows at its end, since no key comes twice.
  induction entries generalizing seen k v fuel with
  | nil =>
    have hclose : skipSpace (writeFields depth (stringFields []) ++ (newLine depth' ++ .char '\x7d' :: r)) =
        .char '\x7d' :: r :=
      (skipSpace_newLine depth' _).trans (skipSpace_cons rfl r)
    rw [readFields_last fuel seen k v hclose, Assoc.put_of_nodup_keys hkeys]
    rfl
  | cons entry entries ih =>
    obtain ⟨k', v'⟩ := entry
    obtain ⟨fuel, rfl⟩ : ∃ n, fuel = n + 1 := Nat.exists_eq_add_one.2 (by simp at hfuel; omega)
    have hfields : seen ++ stringFields ((k, v) :: (k', v') :: entries) =
        seen ++ [(k, .string v)] ++ stringFields ((k', v') :: entries) :=
      List.append_cons ..
    rw [writeFields_strings_append, letters_singleton_append,
      readFields_next _ seen k v (skipSpace_cons rfl _), skipSpace_newLine,
      skipSpace_quotedString, Assoc.put_of_nodup_keys hkeys]
    rw [hfields] at hkeys ⊢
    exact ih fuel (Nat.le_of_succ_le_succ hfuel) _ k' v' hkeys

theorem readValue_write_strings (depth : Nat) {entries : List (Symbols × Symbols)}
    (hkeys : (Assoc.keys (stringFields entries)).Nodup) {fuel : Nat} (hfuel : entries.length ≤ fuel)
    (r : Symbols) :
    readValue (fuel + 2) (write depth (.object (stringFields entries)) ++ r) =
      .ok (.object (stringFields entries), r) := by
  cases entries with
  | nil => rfl
  | cons entry entries =>
    obtain ⟨k, v⟩ := entry
    obtain ⟨fuel, rfl⟩ : ∃ n, fuel = n + 1 := Nat.exists_eq_add_one.2 (Nat.zero_lt_of_lt hfuel)
    have hfields := readFields_strings (depth + 1) depth entries r fuel (Nat.le_of_succ_le_succ hfuel) []
      k v hkeys
    rw [write_strings_append, letters_singleton_append, readValue, skipSpace_newLine, skipSpace_quotedString]
    rw [quotedString_append] at hfields ⊢
    exact congrArg (Except.map fun p => (Json.object p.1, p.2)) hfields

theorem head?_write_strings (depth : Nat) (entries : List (Symbols × Symbols)) :
    (write depth (.object (stringFields entries))).head? = some (.char '\x7b') := by
  cases entries <;> rfl

/-- A document that holds one object of strings is read as that object. -/
theorem read_write_strings (depth : Nat) {entries : List (Symbols × Symbols)}
    (hkeys : (Assoc.keys (stringFields entries)).Nodup) {w : Symbols} (hw : ∀ s ∈ w, isSpace s) :
    read (write depth (.object (stringFields entries)) ++ w) = .ok (.object (stringFields entries)) := by
  have hlength := length_lt_length_write depth entries
  have hstart := head?_write_strings depth entries
  have hvalue {fuel : Nat} (hfuel : entries.length ≤ fuel) := readValue_write_strings depth hkeys hfuel w
  generalize write depth (.object (stringFields entries)) = document at hlength hstart hvalue ⊢
  obtain ⟨t, rfl⟩ := List.head?_eq_some_iff.1 hstart
  have hfuel : entries.length ≤ 2 * (.char '\x7b' :: t ++ w).length := by
    rw [List.length_append]
    omega
  have hskip : skipSpace w = [] := by
    rw [← List.append_nil w, skipSpace_append hw]
    rfl
  rw [read, if_neg (by simp), List.cons_append, skipSpace_cons rfl, ← List.cons_append, hvalue hfuel]
  simp only [hskip]

theorem symbols_letters (t : Text) : symbols (letters t) = letters t :=
  congrArg symbols (List.map_id t)

theorem symbols_newLine (depth : Nat) : symbols (newLine depth) = newLine depth :=
  symbols_letters _

theorem symbols_quotedString (t : Text) : symbols (quotedString t) = quotedString t.symbols := by
  have hchars : symbols (t.flatMap Letter.escaped) = t.symbols.flatMap Letter.escaped := by
    rw [symbols, List.map_flatMap, symbols, List.flatMap_map]
    rfl
  simp only [quotedString, symbols_append, symbols_letters, hchars]

theorem symbols_writeFields_strings (depth : Nat) (entries : List (Text × Text)) :
    symbols (writeFields depth (stringFields entries)) =
      writeFields depth (stringFields (entries.map (Prod.map symbols symbols))) := by
  induction entries with
  | nil => rfl
  | cons entry entries ih =>
    rw [List.map_cons, stringFields_cons, Prod.map, stringFields_cons]
    simp only [writeFields, write, symbols_append, symbols_letters, symbols_newLine, symbols_quotedString, ih]

theorem symbols_write_strings (depth : Nat) (entries : List (Text × Text)) :
    symbols (write depth (.object (stringFields entries))) =
      write depth (.object (stringFields (entries.map (Prod.map symbols symbols)))) := by
  cases entries with
  | nil => rfl
  | cons entry entries =>
    rw [List.map_cons, stringFields_cons, Prod.map, stringFields_cons]
    simp only [write, symbols_append, symbols_letters, symbols_newLine, symbols_quotedString,
      symbols_writeFields_strings]

theorem return_not_mem_escapedChar (c : Char) : '\r' ∉ escapedChar c := by
  have hform := escapedForm_escapedChar c
  generalize escapedChar c = w at hform
  cases hform with
  | @simple e h =>
    have he : '\r' ≠ e := by
      rintro rfl
      cases h
    exact List.not_mem_cons_of_ne_of_not_mem (by decide) (List.not_mem_cons_of_ne_of_not_mem he nofun)
  | number _ _ hreturn =>
    exact List.not_mem_cons_of_ne_of_not_mem (by decide)
      (List.not_mem_cons_of_ne_of_not_mem (by decide) hreturn)
  | plain _ _ hc =>
    rw [List.mem_singleton]
    rintro rfl
    exact hc (by decide)

theorem letters_eq (t : Text) : letters t = t :=
  List.map_id t

theorem return_not_mem_quotedString (t : Text) : '\r' ∉ quotedString t := by
  have hchars : '\r' ∉ t.flatMap escapedChar := by
    rw [List.mem_flatMap]
    rintro ⟨c, -, hc⟩
    exact return_not_mem_escapedChar c hc
  rw [quotedString, letters_eq, List.mem_append, List.mem_append, List.mem_singleton]
  rintro ((h | h) | h)
  · exact absurd h (by decide)
  · exact hchars h
  · exact absurd h (by decide)

theorem return_not_mem_newLine (depth : Nat) : '\r' ∉ newLine depth := by
  simp [newLine, letters_eq, List.mem_replicate]

theorem return_not_mem_writeFields_strings (depth : Nat) (entries : List (Text × Text)) :
    '\r' ∉ writeFields depth (stringFields entries) := by
  have hseparator : '\r' ∉ Text.of ": " := by decide
  induction entries with
  | nil => exact nofun
  | cons entry entries ih =>
    rw [← List.append_nil (writeFields depth _), writeFields_strings_append]
    simp [letters_eq, return_not_mem_newLine, return_not_mem_quotedString, hseparator, ih]

theorem return_not_mem_write_strings (depth : Nat) (entries : List (Text × Text)) :
    '\r' ∉ write depth (.object (stringFields entries)) := by
  have hseparator : '\r' ∉ Text.of ": " := by decide
  cases entries with
  | nil => exact of_decide_eq_true rfl
  | cons entry entries =>
    rw [← List.append_nil (write depth _), write_strings_append]
    simp [letters_eq, return_not_mem_newLine, return_not_mem_quotedString, hseparator,
      return_not_mem_writeFields_strings]

end BattleScript.Json
