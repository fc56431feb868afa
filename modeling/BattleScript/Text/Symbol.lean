import BattleScript.Text.Quoted
import BattleScript.Text.Utf8

/-!
Texts as other programs write them: half of a surrogate pair may stand alone in them. No encoding has a
form for such a half, so these texts are only passed on.
-/
namespace BattleScript.Text

/-- A character, or the half of a surrogate pair with this number behind U+D800. -/
inductive Symbol where
  | char (c : Char)
  | half (h : Fin 0x800)
deriving DecidableEq, Repr, Inhabited

namespace Symbol

def ofNumber (n : Nat) : Symbol :=
  if h : 0xD800 ≤ n ∧ n < 0xE000 then .half ⟨n - 0xD800, by omega⟩ else .char (Char.ofNat n)

def number : Symbol → Nat
  | char c => c.toNat
  | half h => 0xD800 + h

def char? : Symbol → Option Char
  | char c => some c
  | half _ => none

theorem ofNumber_of_lt {n : Nat} (h : n < 0xD800) : ofNumber n = .char (Char.ofNat n) :=
  dif_neg fun hn => Nat.not_lt.2 hn.1 h

end Symbol

abbrev Symbols := List Symbol

def symbols (t : Text) : Symbols :=
  t.map .char

namespace Symbols

def text? (t : Symbols) : Option Text :=
  t.mapM Symbol.char?

/-- The text that stands for symbols where characters are needed. -/
def shown (t : Symbols) : Text :=
  t.map fun s => s.char?.getD (Char.ofNat 0xFFFD)

def run (p : Char → Bool) : Symbols → Text × Symbols
  | .char c :: t =>
    if p c then (c :: (run p t).1, (run p t).2) else ([], .char c :: t)
  | t => ([], t)

def quotedSymbol (q : Char) : Symbol → Text
  | .char c => quotedChar q c
  | .half h => "\\u" ++ ofHex 4 (0xD800 + h)

def quoted (t : Symbols) : Text :=
  let q := quoteFor t.shown
  q :: t.flatMap (quotedSymbol q) ++ [q]

def notEncodedMessage (code reason : Text) (isEncoded : Symbol → Bool) (t : Symbols) : Text :=
  let start := (t.takeWhile isEncoded).length
  let run := (t.drop start).takeWhile fun s => !isEncoded s
  let what : Text := match run with
    | [.char c] => "character '" ++ charByNumber c ++ "' in position " ++ ofNat start
    | [.half h] => "character '" ++ quotedSymbol '\'' (.half h) ++ "' in position " ++ ofNat start
    | _ => "characters in position " ++ ofNat start ++ '-' :: ofNat (start + run.length - 1)
  "'" ++ code ++ "' codec can't encode " ++ what ++ ": " ++ reason

def encode? (t : Symbols) : Option Bytes :=
  t.text?.map Utf8.encode

theorem text?_symbols (t : Text) : text? t.symbols = some t := by
  induction t with
  | nil => rfl
  | cons c t ih =>
    rw [symbols, List.map_cons, text?, List.mapM_cons, ← symbols, ← text?, ih]
    rfl

theorem shown_symbols (t : Text) : shown t.symbols = t := by
  rw [shown, symbols, List.map_map]
  exact List.map_id t

end Symbols

theorem symbols_append (s t : Text) : symbols (s ++ t) = s.symbols ++ t.symbols :=
  List.map_append

theorem symbols_inj {s t : Text} : s.symbols = t.symbols ↔ s = t :=
  List.map_inj_right fun _ _ => Symbol.char.inj

end BattleScript.Text
