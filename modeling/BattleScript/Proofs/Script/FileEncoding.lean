import Mathlib.Data.List.DropRight
import BattleScript.Proofs.Text.WellFormed
import BattleScript.Script.File

/-!
Script files are read exactly if they are UTF-8. Otherwise the error is about the byte behind the longest
beginning that is UTF-8, and its line and column lead back to that byte.
-/
namespace BattleScript.Script
open Text Files Diagnostic

/-- The line that goes on behind the bytes `before` starts at offset `start`. -/
structure StartsLine (before : Bytes) (start : Nat) : Prop where
  le : start ≤ before.length
  fresh : start = 0 ∨ before[start - 1]? = some 0x0A
  same : 0x0A ∉ before.drop start

theorem startsLine_append {earlier line : Bytes} (hearlier : ∀ b ∈ earlier.getLast?, b = 0x0A)
    (hline : 0x0A ∉ line) : StartsLine (earlier ++ line) earlier.length := by
  refine ⟨by rw [List.length_append]; exact Nat.le_add_right _ _, ?_, by rwa [List.drop_left]⟩
  cases hlast : earlier.getLast? with
  | none =>
    left
    rw [List.getLast?_eq_none_iff.1 hlast]
    rfl
  | some b =>
    right
    obtain rfl : b = 0x0A := hearlier b hlast
    have hpos : earlier.length ≠ 0 := by
      intro hnil
      rw [List.length_eq_zero_iff.1 hnil] at hlast
      cases hlast
    rw [List.getElem?_append_left (by omega), ← List.getLast?_eq_getElem?, hlast]

theorem exists_startsLine (path : Path) (before : Bytes) :
    ∃ start, StartsLine before start ∧
      (before.length : Int) - (placeAfter path before).column + 1 = start := by
  let earlier := before.rdropWhile (· ≠ 0x0A)
  let line := before.rtakeWhile (· ≠ 0x0A)
  have hsplit : earlier ++ line = before := List.rdropWhile_append_rtakeWhile
  have hearlier : ∀ b ∈ earlier.getLast?, b = 0x0A := by
    intro b hb
    have hstop := List.head?_dropWhile_not (fun b : UInt8 => decide (b ≠ 0x0A)) before.reverse
    rw [← List.getLast?_reverse, show (before.reverse.dropWhile (· ≠ 0x0A)).reverse.getLast? = some b from hb]
      at hstop
    exact of_not_not (of_decide_eq_false hstop)
  have hline : 0x0A ∉ line := by
    intro hmem
    have hpass := List.mem_rtakeWhile_imp hmem
    exact of_decide_eq_true hpass rfl
  have hcolumn : (placeAfter path before).column = line.length + 1 := by
    rw [show line.length = (before.reverse.takeWhile (· ≠ 0x0A)).length from List.length_reverse]
    rfl
  refine ⟨earlier.length, hsplit ▸ startsLine_append hearlier hline, ?_⟩
  rw [hcolumn, ← hsplit, List.length_append]
  omega

theorem hexValue?_ofHex (b : UInt8) :
    (ofHex 2 b.toNat).length = 2 ∧ hexValue? (ofHex 2 b.toNat) = some b.toNat := by
  have hall : ∀ n < 256, (ofHex 2 n).length = 2 ∧ hexValue? (ofHex 2 n) = some n := by decide +kernel
  exact hall b.toNat b.toNat_lt

/-- The bytes of a text are read as its lines. Other bytes give an error: it shows the first byte that no
beginning in UTF-8 can go beyond, in two hexadecimal digits, the line of that byte is one more than the
line feeds before it, and counting back from it by the column leads to the start of that line. -/
theorem readBytes_outcome (path : Path) (data : Bytes) :
    (∀ t : Text, data.toByteArray = List.utf8Encode t →
      (readBytes path data).map Prod.fst = .ok (parseText t)) ∧
    (¬ data.toByteArray.IsValidUTF8 →
      ∃ e s, readBytes path data = .error e ∧
        IsGreatest {k | k ≤ data.length ∧ (data.take k).toByteArray.IsValidUTF8} s ∧
        data[s]? = some e.byte ∧
        (∃ digits, e.message = "Script is not valid UTF-8 (byte 0x" ++ digits ++ Text.of ")" ∧
          digits.length = 2 ∧ hexValue? digits = some e.byte.toNat) ∧
        e.context.line = (data.take s).count 0x0A + 1 ∧ 1 ≤ e.context.column ∧
        ∃ start : Nat, (s : Int) - e.context.column + 1 = start ∧ StartsLine (data.take s) start) := by
  refine ⟨fun t ht => ?_, fun hinvalid => ?_⟩
  · rw [readBytes, Utf8.decode_eq_ok_iff.2 (Utf8.toByteArray_eq_iff.1 ht)]
    rfl
  · cases hdecode : Utf8.decode data with
    | ok t => exact absurd (Utf8.isValidUTF8_iff.2 ⟨t, Utf8.decode_eq_ok_iff.1 hdecode⟩) hinvalid
    | error f =>
      obtain ⟨hbyte, hgreatest⟩ := Utf8.isGreatest_position hdecode
      obtain ⟨hlength, hvalue⟩ := hexValue?_ofHex f.byte
      obtain ⟨start, hstart, hcolumn⟩ := exists_startsLine path (data.take f.position)
      rw [List.length_take_of_le hgreatest.1.1] at hcolumn
      refine ⟨⟨f.byte, placeAfter path (data.take f.position)⟩, f.position, by rw [readBytes, hdecode],
        hgreatest, hbyte, ⟨_, rfl, hlength, hvalue⟩, rfl, ?_, start, hcolumn, hstart⟩
      exact Int.le_add_of_nonneg_left (Int.natCast_nonneg _)

theorem readBytes_outcome_surrogate :
    let data : Bytes := [0x61, 0x0A, 0x62, 0xED, 0xA0, 0x80]
    ¬ data.toByteArray.IsValidUTF8 ∧
      readBytes (.ofText "s.txt") data = .error ⟨0xED, ⟨.ofText "s.txt", 2, 2, none⟩⟩ ∧
      ∃ s, IsGreatest {k | k ≤ data.length ∧ (data.take k).toByteArray.IsValidUTF8} s ∧
        data[s]? = some 0xED ∧ ∃ start : Nat, (s : Int) - 2 + 1 = start ∧ StartsLine (data.take s) start := by
  intro data
  have hread : readBytes (.ofText "s.txt") data = .error ⟨0xED, ⟨.ofText "s.txt", 2, 2, none⟩⟩ :=
    rfl
  have hinvalid : ¬ data.toByteArray.IsValidUTF8 := by
    rintro ⟨t, ht⟩
    have hok := (readBytes_outcome (.ofText "s.txt") data).1 t ht
    rw [hread] at hok
    cases hok
  obtain ⟨e, s, herror, hgreatest, hbyte, -, -, -, hstart⟩ :=
    (readBytes_outcome (.ofText "s.txt") data).2 hinvalid
  rw [hread] at herror
  cases herror
  exact ⟨hinvalid, hread, s, hgreatest, hbyte, hstart⟩

end BattleScript.Script
