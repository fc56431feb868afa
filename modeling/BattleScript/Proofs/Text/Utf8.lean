import Mathlib.Tactic.SplitIfs
import Mathlib.Tactic.Tauto
import BattleScript.Text.Utf8

/-!
UTF-8 there and back. The bytes of a character are a sequence that stands for that character, whatever
bytes follow, so decoding finds the characters of an encoded text one after another.
-/
namespace BattleScript.Text.Utf8

theorem toNat_toUInt8 {n : Nat} (h : n < 256) : n.toUInt8.toNat = n :=
  UInt8.toNat_ofNat_of_lt' h

theorem isTail_iff {b : UInt8} : isTail b = true ↔ 0x80 ≤ b.toNat ∧ b.toNat < 0xC0 := by
  simp [isTail, UInt8.le_iff_toNat_le, UInt8.lt_iff_toNat_lt]

theorem bne_iff_toNat_ne {a b : UInt8} : (a != b) = true ↔ a.toNat ≠ b.toNat := by
  rw [bne_iff_ne, ne_eq, ← UInt8.toNat_inj]

theorem second3_iff {a b : UInt8} : second3 a b = true ↔
    isTail b = true ∧ (a.toNat = 0xE0 → 0xA0 ≤ b.toNat) ∧ (a.toNat = 0xED → b.toNat < 0xA0) := by
  simp only [second3, Bool.and_eq_true, Bool.or_eq_true, bne_iff_toNat_ne, decide_eq_true_eq,
    UInt8.le_iff_toNat_le, UInt8.lt_iff_toNat_lt, UInt8.reduceToNat]
  tauto

theorem second4_iff {a b : UInt8} : second4 a b = true ↔
    isTail b = true ∧ (a.toNat = 0xF0 → 0x90 ≤ b.toNat) ∧ (a.toNat = 0xF4 → b.toNat < 0x90) := by
  simp only [second4, Bool.and_eq_true, Bool.or_eq_true, bne_iff_toNat_ne, decide_eq_true_eq,
    UInt8.le_iff_toNat_le, UInt8.lt_iff_toNat_lt, UInt8.reduceToNat]
  tauto

section Fronts
variable {a b c d : UInt8}

theorem not_lt_of_le_toNat {k : UInt8} (h : k.toNat ≤ a.toNat) : ¬ a < k :=
  fun hlt => Nat.not_lt.2 h (UInt8.lt_iff_toNat_lt.1 hlt)

theorem front_one (ha : a.toNat < 0x80) (r : Bytes) :
    front a r = .char (Char.ofNat a.toNat) 1 :=
  if_pos (UInt8.lt_iff_toNat_lt.2 ha)

theorem front_of_lead (ha : 0xC2 ≤ a.toNat) (ha' : a.toNat ≤ 0xF4) (r : Bytes) :
    front a r = sequence a r := by
  have hone : ¬ a < 0x80 := not_lt_of_le_toNat (Nat.le_trans (by decide) ha)
  have hlow : ¬ a < 0xC2 := not_lt_of_le_toNat ha
  have hhigh : ¬ 0xF4 < a := not_lt_of_le_toNat ha'
  simp only [front, hone, hlow, hhigh, if_false, decide_false, Bool.or_self, Bool.false_eq_true]

theorem front_two (ha : 0xC2 ≤ a.toNat) (ha' : a.toNat < 0xE0) (hb : isTail b) (r : Bytes) :
    front a (b :: r) = .char (char2 a b) 2 := by
  have hlt : a < 0xE0 := UInt8.lt_iff_toNat_lt.2 ha'
  rw [front_of_lead ha (by omega)]
  unfold sequence
  simp only [hlt, hb, if_true]

theorem front_three (ha : 0xE0 ≤ a.toNat) (ha' : a.toNat < 0xF0) (hb : second3 a b)
    (hc : isTail c) (r : Bytes) : front a (b :: c :: r) = .char (char3 a b c) 3 := by
  have hge : ¬ a < 0xE0 := not_lt_of_le_toNat ha
  have hlt : a < 0xF0 := UInt8.lt_iff_toNat_lt.2 ha'
  rw [front_of_lead (by omega) (by omega)]
  unfold sequence
  simp only [hge, hlt, hb, hc, if_true, if_false, Bool.not_true, Bool.false_eq_true]

theorem front_four (ha : 0xF0 ≤ a.toNat) (ha' : a.toNat ≤ 0xF4) (hb : second4 a b)
    (hc : isTail c) (hd : isTail d) (r : Bytes) :
    front a (b :: c :: d :: r) = .char (char4 a b c d) 4 := by
  have hge : ¬ a < 0xE0 := not_lt_of_le_toNat (Nat.le_trans (by decide) ha)
  have hge' : ¬ a < 0xF0 := not_lt_of_le_toNat ha
  rw [front_of_lead (by omega) ha']
  unfold sequence
  simp only [hge, hge', hb, hc, hd, if_true, if_false, Bool.not_true, Bool.false_eq_true]

end Fronts

theorem toNat_valid (c : Char) : c.toNat < 0xD800 ∨ 0xDFFF < c.toNat ∧ c.toNat < 0x110000 :=
  c.valid

theorem toNat_tail (k : Nat) : (0x80 + k % 0x40).toUInt8.toNat = 0x80 + k % 0x40 :=
  toNat_toUInt8 (by omega)

theorem isTail_tail (k : Nat) : isTail (0x80 + k % 0x40).toUInt8 = true :=
  isTail_iff.2 (by rw [toNat_tail]; omega)

theorem toNat_lead2 {n : Nat} (h : n < 0x800) :
    (0xC0 + n / 0x40).toUInt8.toNat = 0xC0 + n / 0x40 :=
  toNat_toUInt8 (by omega)

theorem toNat_lead3 {n : Nat} (h : n < 0x10000) :
    (0xE0 + n / 0x1000).toUInt8.toNat = 0xE0 + n / 0x1000 :=
  toNat_toUInt8 (by omega)

theorem toNat_lead4 {n : Nat} (h : n < 0x110000) :
    (0xF0 + n / 0x40000).toUInt8.toNat = 0xF0 + n / 0x40000 :=
  toNat_toUInt8 (by omega)

theorem char2_bytes {n : Nat} (h : n < 0x800) :
    char2 (0xC0 + n / 0x40).toUInt8 (0x80 + n % 0x40).toUInt8 = Char.ofNat n := by
  have hsum : (0xC0 + n / 0x40 - 0xC0) * 0x40 + (0x80 + n % 0x40 - 0x80) = n := by omega
  rw [char2, toNat_lead2 h, toNat_tail, hsum]

theorem char3_bytes {n : Nat} (h : n < 0x10000) :
    char3 (0xE0 + n / 0x1000).toUInt8 (0x80 + n / 0x40 % 0x40).toUInt8 (0x80 + n % 0x40).toUInt8 =
      Char.ofNat n := by
  have hsum : (0xE0 + n / 0x1000 - 0xE0) * 0x1000 + (0x80 + n / 0x40 % 0x40 - 0x80) * 0x40 +
      (0x80 + n % 0x40 - 0x80) = n := by omega
  rw [char3, toNat_lead3 h, toNat_tail, toNat_tail, hsum]

theorem char4_bytes {n : Nat} (h : n < 0x110000) :
    char4 (0xF0 + n / 0x40000).toUInt8 (0x80 + n / 0x1000 % 0x40).toUInt8
      (0x80 + n / 0x40 % 0x40).toUInt8 (0x80 + n % 0x40).toUInt8 = Char.ofNat n := by
  have hsum : (0xF0 + n / 0x40000 - 0xF0) * 0x40000 + (0x80 + n / 0x1000 % 0x40 - 0x80) * 0x1000 +
      (0x80 + n / 0x40 % 0x40 - 0x80) * 0x40 + (0x80 + n % 0x40 - 0x80) = n := by omega
  rw [char4, toNat_lead4 h, toNat_tail, toNat_tail, toNat_tail, hsum]

theorem second3_bytes {n : Nat} (hlow : 0x800 ≤ n) (hhigh : n < 0x10000)
    (hwhole : n < 0xD800 ∨ 0xDFFF < n) :
    second3 (0xE0 + n / 0x1000).toUInt8 (0x80 + n / 0x40 % 0x40).toUInt8 = true := by
  refine second3_iff.2 ⟨isTail_tail _, ?_, ?_⟩
  · rw [toNat_lead3 hhigh, toNat_tail]
    omega
  · rw [toNat_lead3 hhigh, toNat_tail]
    omega

theorem second4_bytes {n : Nat} (hlow : 0x10000 ≤ n) (hhigh : n < 0x110000) :
    second4 (0xF0 + n / 0x40000).toUInt8 (0x80 + n / 0x1000 % 0x40).toUInt8 = true := by
  refine second4_iff.2 ⟨isTail_tail _, ?_, ?_⟩
  · rw [toNat_lead4 hhigh, toNat_tail]
    omega
  · rw [toNat_lead4 hhigh, toNat_tail]
    omega

theorem front_encodeChar (c : Char) : ∃ a tail, encodeChar c = a :: tail ∧
    ∀ r, front a (tail ++ r) = .char c (tail.length + 1) := by
  have hvalid := toNat_valid c
  have hchar := Char.ofNat_toNat c
  unfold encodeChar
  generalize hn : c.toNat = n at hvalid hchar
  simp only
  -- One case for each width.
  split_ifs with h1 h2 h3
  · have ha : n.toUInt8.toNat = n := toNat_toUInt8 (by omega)
    refine ⟨_, [], rfl, fun r => ?_⟩
    rw [List.nil_append, front_one (by omega), ha, ← hn, Char.ofNat_toNat]
    rfl
  · have ha := toNat_lead2 h2
    refine ⟨_, [_], rfl, fun r => ?_⟩
    rw [List.cons_append, front_two (by omega) (by omega) (isTail_tail n), char2_bytes h2, hchar]
    rfl
  · have ha := toNat_lead3 h3
    have hsecond := second3_bytes (Nat.not_lt.1 h2) h3 (hvalid.imp_right And.left)
    refine ⟨_, [_, _], rfl, fun r => ?_⟩
    rw [List.cons_append, List.cons_append,
      front_three (by omega) (by omega) hsecond (isTail_tail n), char3_bytes h3, hchar]
    rfl
  · have hn : n < 0x110000 := by omega
    have ha := toNat_lead4 hn
    have hsecond := second4_bytes (Nat.not_lt.1 h3) hn
    refine ⟨_, [_, _, _], rfl, fun r => ?_⟩
    rw [List.cons_append, List.cons_append, List.cons_append,
      front_four (by omega) (by omega) hsecond (isTail_tail _) (isTail_tail n), char4_bytes hn,
      hchar]
    rfl

theorem scan_skip (position : Nat) (tail r : Bytes) :
    scan position tail.length (tail ++ r) = scan (position + tail.length) 0 r := by
  induction tail generalizing position with
  | nil => rfl
  | cons b tail ih =>
    rw [List.length_cons, List.cons_append, scan, ih, Nat.add_right_comm, Nat.add_assoc]

theorem scan_encodeChar (position : Nat) (c : Char) (r : Bytes) :
    scan position 0 (encodeChar c ++ r) =
      .char c :: scan (position + (encodeChar c).length) 0 r := by
  obtain ⟨a, tail, hc, hfront⟩ := front_encodeChar c
  rw [hc, List.cons_append, scan, hfront]
  simp only [Nat.add_sub_cancel, scan_skip, List.length_cons]
  rw [Nat.add_assoc, Nat.add_comm 1]

theorem strict_scan_encode (position : Nat) (t : Text) :
    strict (scan position 0 (encode t)) = .ok t := by
  induction t generalizing position with
  | nil => rfl
  | cons c t ih =>
    rw [encode, List.flatMap_cons, scan_encodeChar, strict, ← encode, ih]
    rfl

theorem decode_encode (t : Text) : decode (encode t) = .ok t :=
  strict_scan_encode 0 t

end BattleScript.Text.Utf8
