import BattleScript.Diagnostic
import BattleScript.Script.Block
import BattleScript.Text.Utf8

/-!
Script files. They are UTF-8; the first byte that is not is reported by its line and column, counted
in bytes.
-/
namespace BattleScript.Script
open Text Files Diagnostic

structure EncodingError where
  byte : UInt8
  context : Context
deriving DecidableEq, Repr

def EncodingError.message (e : EncodingError) : Text :=
  "Script is not valid UTF-8 (byte 0x" ++ ofHex 2 e.byte.toNat ++ ")"

def EncodingError.text (e : EncodingError) : Text :=
  e.context.withMessage e.message

def placeAfter (path : Path) (before : Bytes) : Context :=
  { file := path
    line := before.count 0x0A + 1
    column := (before.reverse.takeWhile (· ≠ 0x0A)).length + 1
    snippet := none }

/-- The tree of a script file and the notes taken while reading it. -/
def readBytes (path : Path) (bytes : Bytes) : Except EncodingError (List Node × List Note) :=
  match Utf8.decode bytes with
  | .error fault => .error ⟨fault.byte, placeAfter path (bytes.take fault.position)⟩
  | .ok text => .ok (readLines (splitOn '\n' text))

end BattleScript.Script
