import BattleScript.Text.Symbol

/-!
Documents in units of 16 or 32 bits. The form of a document is told by its byte order mark, or by
where its first bytes are zero. Halves of surrogate pairs are let through in every form.
-/
namespace BattleScript.Text.Wide
open Utf8

inductive Form where
  | utf8
  | utf16 (bigEndian : Bool)
  | utf32 (bigEndian : Bool)
deriving DecidableEq, Repr

/-- The form of a document and the bytes after its mark. -/
def detect : Bytes → Form × Bytes
  | 0x00 :: 0x00 :: 0xFE :: 0xFF :: r => (.utf32 true, r)
  | 0xFF :: 0xFE :: 0x00 :: 0x00 :: r => (.utf32 false, r)
  | 0xFE :: 0xFF :: r => (.utf16 true, r)
  | 0xFF :: 0xFE :: r => (.utf16 false, r)
  | 0xEF :: 0xBB :: 0xBF :: r => (.utf8, r)
  | a :: b :: c :: d :: r =>
    let bytes := a :: b :: c :: d :: r
    if a = 0 then (if b = 0 then .utf32 true else .utf16 true, bytes)
    else if b = 0 then (if c = 0 ∧ d = 0 then .utf32 false else .utf16 false, bytes)
    else (.utf8, bytes)
  | [a, b] => (if a = 0 then .utf16 true else if b = 0 then .utf16 false else .utf8, [a, b])
  | bytes => (.utf8, bytes)

def units16 (bigEndian : Bool) : Bytes → Option (List Nat)
  | [] => some []
  | a :: b :: r =>
    let unit := if bigEndian then a.toNat * 0x100 + b.toNat else b.toNat * 0x100 + a.toNat
    (units16 bigEndian r).map (unit :: ·)
  | _ => none

def units32 (bigEndian : Bool) : Bytes → Option (List Nat)
  | [] => some []
  | a :: b :: c :: d :: r =>
    let big (a b c d : UInt8) := ((a.toNat * 0x100 + b.toNat) * 0x100 + c.toNat) * 0x100 + d.toNat
    (units32 bigEndian r).map ((if bigEndian then big a b c d else big d c b a) :: ·)
  | _ => none

def pairs : List Nat → Symbols
  | [] => []
  | [a] => [.ofNumber a]
  | a :: b :: r =>
    if 0xD800 ≤ a && a < 0xDC00 && 0xDC00 ≤ b && b < 0xE000 then
      .char (Char.ofNat (0x10000 + (a - 0xD800) * 0x400 + (b - 0xDC00))) :: pairs r
    else .ofNumber a :: pairs (b :: r)

/-- The symbols of scanned bytes, where three bytes may stand for a half of a surrogate pair. Each of
them is an ill-formed run by itself. -/
def letHalvesPass : List Piece → Option Symbols
  | [] => some []
  | .char c :: ps => (letHalvesPass ps).map (.char c :: ·)
  | .fault a :: .fault b :: .fault c :: ps =>
    if a.byte = 0xED ∧ a.width = 1 ∧ 0xA0 ≤ b.byte ∧ isTail b.byte ∧ isTail c.byte then
      (letHalvesPass ps).map
        (.ofNumber (0xD000 + (b.byte.toNat - 0x80) * 0x40 + (c.byte.toNat - 0x80)) :: ·)
    else none
  | _ => none

def decode? (document : Bytes) : Option Symbols :=
  match detect document with
  | (.utf8, r) => letHalvesPass (scan 0 0 r)
  | (.utf16 bigEndian, r) => (units16 bigEndian r).map pairs
  | (.utf32 bigEndian, r) =>
    match units32 bigEndian r with
    | some units => if units.all (· < 0x110000) then some (units.map .ofNumber) else none
    | none => none

end BattleScript.Text.Wide
