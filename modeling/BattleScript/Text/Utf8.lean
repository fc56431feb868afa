import BattleScript.Text.Basic

/-!
UTF-8. Bytes are scanned into characters and ill-formed runs; strict decoding stops at the first run,
and lenient decoding shows each run as one replacement character.
-/
namespace BattleScript

abbrev Bytes := List UInt8

namespace Text.Utf8

inductive Reason where
  | start
  | continuation
  | truncated
deriving DecidableEq, Repr

def Reason.message : Reason → Text
  | .start => "invalid start byte"
  | .continuation => "invalid continuation byte"
  | .truncated => "unexpected end of data"

/-- An ill-formed run: where it starts, its first byte, how long it is and what is wrong. -/
structure Fault where
  position : Nat
  byte : UInt8
  width : Nat
  reason : Reason
deriving DecidableEq, Repr

def Fault.message (f : Fault) : Text :=
  let place : Text :=
    if f.width = 1 then "byte 0x" ++ ofHex 2 f.byte.toNat ++ " in position " ++ ofNat f.position
    else "bytes in position " ++ ofNat f.position ++ "-" ++ ofNat (f.position + f.width - 1)
  "'utf-8' codec can't decode " ++ place ++ ": " ++ f.reason.message

inductive Piece where
  | char (c : Char)
  | fault (f : Fault)
deriving DecidableEq, Repr

def isTail (b : UInt8) : Bool := 0x80 ≤ b && b < 0xC0

def second3 (a b : UInt8) : Bool :=
  isTail b && (a != 0xE0 || 0xA0 ≤ b) && (a != 0xED || b < 0xA0)

def second4 (a b : UInt8) : Bool :=
  isTail b && (a != 0xF0 || 0x90 ≤ b) && (a != 0xF4 || b < 0x90)

def char2 (a b : UInt8) : Char :=
  Char.ofNat ((a.toNat - 0xC0) * 0x40 + (b.toNat - 0x80))

def char3 (a b c : UInt8) : Char :=
  Char.ofNat ((a.toNat - 0xE0) * 0x1000 + (b.toNat - 0x80) * 0x40 + (c.toNat - 0x80))

def char4 (a b c d : UInt8) : Char :=
  Char.ofNat ((a.toNat - 0xF0) * 0x40000 + (b.toNat - 0x80) * 0x1000 + (c.toNat - 0x80) * 0x40 +
    (d.toNat - 0x80))

inductive Front where
  | char (c : Char) (width : Nat)
  | fault (reason : Reason) (width : Nat)
deriving DecidableEq, Repr

def sequence (a : UInt8) (r : Bytes) : Front :=
  match r with
  | [] => .fault .truncated 1
  | b :: r =>
    if a < 0xE0 then
      if isTail b then .char (char2 a b) 2 else .fault .continuation 1
    else if !(if a < 0xF0 then second3 a b else second4 a b) then .fault .continuation 1
    else
      match r with
      | [] => .fault .truncated 2
      | c :: r =>
        if !isTail c then .fault .continuation 2
        else if a < 0xF0 then .char (char3 a b c) 3
        else
          match r with
          | [] => .fault .truncated 3
          | d :: _ => if isTail d then .char (char4 a b c d) 4 else .fault .continuation 3

def front (a : UInt8) (r : Bytes) : Front :=
  if a < 0x80 then .char (Char.ofNat a.toNat) 1
  else if a < 0xC2 || 0xF4 < a then .fault .start 1
  else sequence a r

/-- The characters and ill-formed runs of bytes that start at `position`, after the first `skip`
bytes, which belong to a piece already found. -/
def scan (position skip : Nat) : Bytes → List Piece
  | [] => []
  | a :: r =>
    match skip with
    | skip + 1 => scan (position + 1) skip r
    | 0 =>
      match front a r with
      | .char c width => .char c :: scan (position + 1) (width - 1) r
      | .fault reason width =>
        .fault ⟨position, a, width, reason⟩ :: scan (position + 1) (width - 1) r

def strict : List Piece → Except Fault Text
  | [] => .ok []
  | .char c :: ps => (strict ps).map (c :: ·)
  | .fault f :: _ => .error f

def decode (bytes : Bytes) : Except Fault Text :=
  strict (scan 0 0 bytes)

def decodeLossy (bytes : Bytes) : Text :=
  (scan 0 0 bytes).map fun
    | .char c => c
    | .fault _ => Char.ofNat 0xFFFD

def encodeChar (c : Char) : Bytes :=
  let n := c.toNat
  if n < 0x80 then [n.toUInt8]
  else if n < 0x800 then [(0xC0 + n / 0x40).toUInt8, (0x80 + n % 0x40).toUInt8]
  else if n < 0x10000 then
    [(0xE0 + n / 0x1000).toUInt8, (0x80 + n / 0x40 % 0x40).toUInt8, (0x80 + n % 0x40).toUInt8]
  else
    [(0xF0 + n / 0x40000).toUInt8, (0x80 + n / 0x1000 % 0x40).toUInt8,
      (0x80 + n / 0x40 % 0x40).toUInt8, (0x80 + n % 0x40).toUInt8]

def encode (t : Text) : Bytes :=
  t.flatMap encodeChar

end Text.Utf8
end BattleScript
