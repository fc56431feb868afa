import Mathlib.Order.Bounds.Defs
import BattleScript.Proofs.Text.Utf8

/-!
Well-formed bytes. Strict decoding accepts exactly the bytes that encode some text. Where it fails, the
bytes before the fault encode a text, and no longer beginning does.
-/
namespace BattleScript.Text.Utf8

theorem encodeChar_eq (c : Char) : encodeChar c = String.utf8EncodeChar c := by
  have hvalid := toNat_valid c
  have hnat : c.val.toNat = c.toNat := rfl
  unfold encodeChar String.utf8EncodeChar
  simp only [hnat]
  generalize c.toNat = n at hvalid
  -- The two cut the widths at the same numbers; taking the leading bits modulo their size changes nothing.
  split_ifs with h1 h1' h2 h2' h3 h3' <;> try omega
  · rfl
  · rw [show n / 64 % 32 + 192 = 0xC0 + n / 0x40 by omega, Nat.add_comm (n % 64)]
  · rw [show n / 4096 % 16 + 224 = 0xE0 + n / 0x1000 by omega, Nat.add_comm (n / 64 % 64),
      Nat.add_comm (n % 64)]
  · rw [show n / 262144 % 8 + 240 = 0xF0 + n / 0x40000 by omega, Nat.add_comm (n / 4096 % 64),
      Nat.add_comm (n / 64 % 64), Nat.add_comm (n % 64)]

theorem toByteArray_eq_iff {bytes : Bytes} {t : Text} :
    bytes.toByteArray = List.utf8Encode t ↔ bytes = encode t := by
  have hencode : encode t = t.flatMap String.utf8EncodeChar := by
    rw [encode, funext encodeChar_eq]
  rw [List.utf8Encode, List.toByteArray_inj, hencode]

theorem isValidUTF8_iff {bytes : Bytes} :
    bytes.toByteArray.IsValidUTF8 ↔ ∃ t, bytes = encode t := by
  constructor
  · rintro ⟨t, ht⟩
    exact ⟨t, toByteArray_eq_iff.1 ht⟩
  · rintro ⟨t, ht⟩
    exact ⟨t, toByteArray_eq_iff.2 ht⟩

section Fronts
variable {a : UInt8} {r : Bytes} {c : Char} {width : Nat}

theorem toNat_ofNat {n : Nat} (h : n < 0xD800 ∨ 0xDFFF < n ∧ n < 0x110000) :
    (Char.ofNat n).toNat = n := by
  rw [Char.ofNat, dif_pos h]
  rfl

theorem toUInt8_eq {n : Nat} (h : n = a.toNat) : n.toUInt8 = a := by
  rw [h]
  exact UInt8.ofNat_toNat

theorem sequence_eq_char2 (ha : a.toNat < 0xE0) (h : sequence a r = .char c width) :
    ∃ b rest, r = b :: rest ∧ isTail b ∧ c = char2 a b ∧ width = 2 := by
  have hlt : a < 0xE0 := UInt8.lt_iff_toNat_lt.2 ha
  unfold sequence at h
  cases r with
  | nil => cases h
  | cons b rest =>
    simp only [hlt, if_true] at h
    split at h
    · rename_i hb
      obtain ⟨rfl, rfl⟩ := Front.char.inj h
      exact ⟨b, rest, rfl, hb, rfl, rfl⟩
    · cases h

theorem sequence_eq_char3 (ha : 0xE0 ≤ a.toNat) (ha' : a.toNat < 0xF0)
    (h : sequence a r = .char c width) :
    ∃ b d rest, r = b :: d :: rest ∧ second3 a b ∧ isTail d ∧ c = char3 a b d ∧ width = 3 := by
  have hge : ¬ a < 0xE0 := not_lt_of_le_toNat ha
  have hlt : a < 0xF0 := UInt8.lt_iff_toNat_lt.2 ha'
  unfold sequence at h
  cases r with
  | nil => cases h
  | cons b rest =>
    simp only [hge, hlt, if_true, if_false, Bool.not_eq_true'] at h
    split at h
    · cases h
    · rename_i hb
      split at h
      · cases h
      · split at h
        · cases h
        · rename_i d rest hd
          obtain ⟨rfl, rfl⟩ := Front.char.inj h
          exact ⟨b, d, rest, rfl, eq_true_of_ne_false hb, eq_true_of_ne_false hd, rfl, rfl⟩

theorem sequence_eq_char4 (ha : 0xF0 ≤ a.toNat) (h : sequence a r = .char c width) :
    ∃ b d e rest, r = b :: d :: e :: rest ∧ second4 a b ∧ isTail d ∧ isTail e ∧
      c = char4 a b d e ∧ width = 4 := by
  have hge : ¬ a < 0xE0 := not_lt_of_le_toNat (Nat.le_trans (by decide) ha)
  have hge' : ¬ a < 0xF0 := not_lt_of_le_toNat ha
  unfold sequence at h
  cases r with
  | nil => cases h
  | cons b rest =>
    simp only [hge, hge', if_false, Bool.not_eq_true'] at h
    split at h
    · cases h
    · rename_i hb
      split at h
      · cases h
      · split at h
        · cases h
        · rename_i d rest hd
          split at h
          · cases h
          · split at h
            · rename_i e rest he
              obtain ⟨rfl, rfl⟩ := Front.char.inj h
              exact ⟨b, d, e, rest, rfl, eq_true_of_ne_false hb, eq_true_of_ne_false hd, he, rfl, rfl⟩
            · cases h

theorem encodeChar_char2 {b : UInt8} (ha : 0xC2 ≤ a.toNat) (ha' : a.toNat < 0xE0) (hb : isTail b) :
    encodeChar (char2 a b) = [a, b] := by
  obtain ⟨hlow, hhigh⟩ := isTail_iff.1 hb
  have hvalid := toNat_ofNat (n := (a.toNat - 0xC0) * 0x40 + (b.toNat - 0x80)) (by omega)
  rw [encodeChar, char2, hvalid]
  rw [if_neg (by omega), if_pos (by omega), toUInt8_eq (a := a) (by omega), toUInt8_eq (a := b) (by omega)]

theorem encodeChar_char3 {b d : UInt8} (ha : 0xE0 ≤ a.toNat) (ha' : a.toNat < 0xF0)
    (hb : second3 a b) (hd : isTail d) : encodeChar (char3 a b d) = [a, b, d] := by
  obtain ⟨htail, hlong, hsurrogate⟩ := second3_iff.1 hb
  obtain ⟨hblow, hbhigh⟩ := isTail_iff.1 htail
  obtain ⟨hdlow, hdhigh⟩ := isTail_iff.1 hd
  have hvalid := toNat_ofNat
    (n := (a.toNat - 0xE0) * 0x1000 + (b.toNat - 0x80) * 0x40 + (d.toNat - 0x80)) (by omega)
  rw [encodeChar, char3, hvalid]
  rw [if_neg (by omega), if_neg (by omega), if_pos (by omega), toUInt8_eq (a := a) (by omega),
    toUInt8_eq (a := b) (by omega), toUInt8_eq (a := d) (by omega)]

theorem encodeChar_char4 {b d e : UInt8} (ha : 0xF0 ≤ a.toNat) (ha' : a.toNat ≤ 0xF4)
    (hb : second4 a b) (hd : isTail d) (he : isTail e) : encodeChar (char4 a b d e) = [a, b, d, e] := by
  obtain ⟨htail, hlong, hlarge⟩ := second4_iff.1 hb
  obtain ⟨hblow, hbhigh⟩ := isTail_iff.1 htail
  obtain ⟨hdlow, hdhigh⟩ := isTail_iff.1 hd
  obtain ⟨helow, hehigh⟩ := isTail_iff.1 he
  have hvalid := toNat_ofNat
    (n := (a.toNat - 0xF0) * 0x40000 + (b.toNat - 0x80) * 0x1000 + (d.toNat - 0x80) * 0x40 +
      (e.toNat - 0x80)) (by omega)
  rw [encodeChar, char4, hvalid]
  rw [if_neg (by omega), if_neg (by omega), if_neg (by omega), toUInt8_eq (a := a) (by omega),
    toUInt8_eq (a := b) (by omega), toUInt8_eq (a := d) (by omega), toUInt8_eq (a := e) (by omega)]

theorem encodeChar_char1 (ha : a.toNat < 0x80) : encodeChar (Char.ofNat a.toNat) = [a] := by
  have hvalid : (Char.ofNat a.toNat).toNat = a.toNat := by
    rw [Char.ofNat, dif_pos (.inl (by omega))]
    rfl
  rw [encodeChar, hvalid]
  rw [if_pos ha, toUInt8_eq rfl]

theorem encodeChar_of_front (h : front a r = .char c width) :
    ∃ rest, a :: r = encodeChar c ++ rest := by
  unfold front at h
  split at h
  · rename_i ha
    obtain ⟨rfl, -⟩ := Front.char.inj h
    exact ⟨r, by rw [encodeChar_char1 (UInt8.lt_iff_toNat_lt.1 ha)]; rfl⟩
  split at h
  · cases h
  rename_i hlead
  have hlead : 0xC2 ≤ a.toNat ∧ a.toNat ≤ 0xF4 := by
    simpa [UInt8.lt_iff_toNat_lt] using hlead
  rcases Nat.lt_or_ge a.toNat 0xE0 with htwo | hthree
  · obtain ⟨b, rest, rfl, hb, hc, -⟩ := sequence_eq_char2 htwo h
    exact ⟨rest, by rw [hc, encodeChar_char2 hlead.1 htwo hb]; rfl⟩
  rcases Nat.lt_or_ge a.toNat 0xF0 with hlt | hfour
  · obtain ⟨b, d, rest, rfl, hb, hd, hc, -⟩ := sequence_eq_char3 hthree hlt h
    exact ⟨rest, by rw [hc, encodeChar_char3 hthree hlt hb hd]; rfl⟩
  · obtain ⟨b, d, e, rest, rfl, hb, hd, he, hc, -⟩ := sequence_eq_char4 hfour h
    exact ⟨rest, by rw [hc, encodeChar_char4 hfour hlead.2 hb hd he]; rfl⟩

end Fronts

theorem scan_encode_append (position : Nat) (t : Text) (r : Bytes) :
    scan position 0 (encode t ++ r) =
      t.map .char ++ scan (position + (encode t).length) 0 r := by
  induction t generalizing position with
  | nil => rfl
  | cons c t ih =>
    rw [encode, List.flatMap_cons, ← encode, List.append_assoc, scan_encodeChar, ih, List.length_append,
      Nat.add_assoc]
    rfl

theorem exists_encode_append (bytes : Bytes) :
    ∃ t r, bytes = encode t ++ r ∧
      (r = [] ∨ ∃ a r' reason width, r = a :: r' ∧ front a r' = .fault reason width) := by
  induction hlength : bytes.length using Nat.strongRecOn generalizing bytes with
  | _ n ih =>
    cases bytes with
    | nil => exact ⟨[], [], rfl, .inl rfl⟩
    | cons a r =>
      cases hfront : front a r with
      | fault reason width => exact ⟨[], a :: r, rfl, .inr ⟨a, r, reason, width, rfl, hfront⟩⟩
      | char c width =>
        obtain ⟨rest, hrest⟩ := encodeChar_of_front hfront
        have hshorter : rest.length < n := by
          obtain ⟨b, tail, hc, -⟩ := front_encodeChar c
          rw [← hlength, hrest, hc, List.length_append, List.length_cons]
          omega
        obtain ⟨t, r', rfl, hend⟩ := ih rest.length hshorter rest rfl
        refine ⟨c :: t, r', ?_, hend⟩
        rw [hrest, encode, encode, List.flatMap_cons, List.append_assoc]

theorem decode_encode_append_fault {t : Text} {a : UInt8} {r : Bytes} {reason : Reason} {width : Nat}
    (h : front a r = .fault reason width) :
    decode (encode t ++ a :: r) = .error ⟨(encode t).length, a, width, reason⟩ := by
  have hstrict (t : Text) (f : Fault) (ps : List Piece) :
      strict (t.map .char ++ .fault f :: ps) = .error f := by
    induction t with
    | nil => rfl
    | cons c t ih =>
      rw [List.map_cons, List.cons_append, strict, ih]
      rfl
  rw [decode, scan_encode_append, scan, h, Nat.zero_add]
  exact hstrict t _ _

theorem decode_eq_ok_iff {bytes : Bytes} {t : Text} : decode bytes = .ok t ↔ bytes = encode t := by
  constructor
  · intro h
    obtain ⟨t', r, rfl, rfl | ⟨a, r', reason, width, rfl, hfront⟩⟩ := exists_encode_append bytes
    · rw [List.append_nil, decode_encode] at h
      rw [List.append_nil, Except.ok.inj h]
    · rw [decode_encode_append_fault hfront] at h
      cases h
  · rintro rfl
    exact decode_encode t

theorem prefix_of_pieces {t u : Text} {f : Fault} {ps qs : List Piece}
    (h : u.map .char ++ qs = t.map .char ++ .fault f :: ps) : u <+: t := by
  induction u generalizing t with
  | nil => exact List.nil_prefix
  | cons c u ih =>
    cases t with
    | nil =>
      rw [List.map_cons, List.cons_append] at h
      cases h
    | cons d t =>
      rw [List.map_cons, List.map_cons, List.cons_append, List.cons_append] at h
      obtain ⟨hc, hrest⟩ := List.cons.inj h
      rw [Piece.char.inj hc]
      exact List.cons_prefix_cons.2 ⟨rfl, ih hrest⟩

theorem length_encode_le {t u : Text} (h : u <+: t) : (encode u).length ≤ (encode t).length := by
  obtain ⟨v, rfl⟩ := h
  rw [encode, encode, List.flatMap_append, List.length_append]
  exact Nat.le_add_right _ _

/-- A fault stands behind the longest beginning that encodes a text. -/
theorem isGreatest_position {bytes : Bytes} {f : Fault} (h : decode bytes = .error f) :
    bytes[f.position]? = some f.byte ∧
      IsGreatest {k | k ≤ bytes.length ∧ (bytes.take k).toByteArray.IsValidUTF8} f.position := by
  obtain ⟨t, r, rfl, rfl | ⟨a, r', reason, width, rfl, hfront⟩⟩ := exists_encode_append bytes
  · rw [List.append_nil, decode_encode] at h
    cases h
  rw [decode_encode_append_fault hfront] at h
  obtain rfl := Except.error.inj h
  refine ⟨?_, ⟨?_, ?_⟩, ?_⟩
  · rw [List.getElem?_append_right (Nat.le_refl _), Nat.sub_self, List.getElem?_cons_zero]
  · rw [List.length_append]
    exact Nat.le_add_right _ _
  · exact isValidUTF8_iff.2 ⟨t, List.take_left⟩
  · rintro k ⟨hk, hvalid⟩
    obtain ⟨u, hu⟩ := isValidUTF8_iff.1 hvalid
    -- Scanning finds the characters of the beginning, and it finds the fault.
    have hpieces := scan_encode_append 0 u ((encode t ++ a :: r').drop k)
    rw [← hu, List.take_append_drop, scan_encode_append, scan, hfront] at hpieces
    have hlength : k = (encode u).length := by rw [← hu, List.length_take_of_le hk]
    rw [hlength]
    exact length_encode_le (prefix_of_pieces hpieces.symm)

end BattleScript.Text.Utf8
