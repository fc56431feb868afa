import BattleScript.Download.Hostname
import BattleScript.Text.Blank
import BattleScript.Text.Digit
import BattleScript.Text.Quoted
import BattleScript.Text.Utf8

/-!
Web addresses: who asks, which host, and which path. An address is refused for its characters, its
host or the number of its socket, in that order. Parts of an address may be written by the numbers of their bytes.
-/
namespace BattleScript.Download
open Text

inductive AddressFault where
  | tooLong
  | queryTooLong
  | control (c : Char) (position : Nat)
  | notFourNumbers (host : Text)
  | notEightNumbers (host : Text)
  | notHostname (host : Text)
  | notSocket (number : Text)
deriving DecidableEq, Repr

def AddressFault.message : AddressFault → Text
  | tooLong => "URL too long"
  | queryTooLong => "URL component 'query' too long"
  | control c position =>
    "Invalid non-printable ASCII character in URL, " ++ quoted [c] ++ " at position " ++
      ofNat position ++ ['.']
  | notFourNumbers host => "Invalid IPv4 address: " ++ quoted host
  | notEightNumbers host => "Invalid IPv6 address: " ++ quoted host
  | notHostname host => "Invalid IDNA hostname: " ++ quoted host
  | notSocket number => "Invalid port: " ++ quoted number

structure Address where
  user : Text
  password : Text
  host : Text
  path : Text
deriving DecidableEq, Repr

namespace Address

def sizeLimit : Nat := 65536

def isControl (c : Char) : Bool :=
  c.toNat < 32 || c.toNat = 127

def bytesOf : Bytes → Bytes
  | [] => []
  | b :: r =>
    if b.toNat = '%'.toNat then
      match r with
      | h :: l :: r' =>
        match hexDigit? (Char.ofNat h.toNat), hexDigit? (Char.ofNat l.toNat) with
        | some h', some l' => (16 * h' + l').toUInt8 :: bytesOf r'
        | _, _ => b :: bytesOf (h :: l :: r')
      | r => b :: r
    else b :: bytesOf r
termination_by bytes => bytes.length

def plain (t : Text) : Text :=
  Utf8.decodeLossy (bytesOf (Utf8.encode t))

def byteNumber (b : UInt8) : Text :=
  '%' :: (ofHex 2 b.toNat).map Char.toUpper

def byNumbers (isSafe : Char → Bool) (t : Text) : Text :=
  t.flatMap fun c => if isSafe c then [c] else (Utf8.encode [c]).flatMap byteNumber

def isHostSafe (c : Char) : Bool :=
  isAsciiDigit c || ('a' ≤ c && c ≤ 'z') || (of "-._~!$&'()*+,;=\"`\x7b\x7d%|\\").contains c

def isPathSafe (c : Char) : Bool :=
  '!' ≤ c && c ≤ '~' && !(of "\"#<>?`\x7b\x7d").contains c

/-- Whether a text is `n` numbers with any one character between them, where `started` tells that the
first of them has a digit already. -/
def isNumbers (started : Bool) (n : Nat) : Text → Bool
  | [] => started && n = 1
  | c :: r =>
    (isAsciiDigit c && isNumbers true n r) || (started && 1 < n && isNumbers false (n - 1) r)

def isOctet (t : Text) : Bool :=
  t ≠ [] && t.length ≤ 3 && t.all isAsciiDigit && (t.length = 1 || t.head? ≠ some '0') &&
    t.foldl (fun n c => 10 * n + (c.toNat - '0'.toNat)) 0 < 256

def isFourNumbers (t : Text) : Bool :=
  let parts := splitOn '.' t
  parts.length = 4 && parts.all isOctet

def isHextet (t : Text) : Bool :=
  t ≠ [] && t.length ≤ 4 && t.all fun c => (hexDigit? c).isSome

def hextets (t : Text) : List Text :=
  let parts := splitOn ':' t
  match parts.getLast? with
  | some last => if isFourNumbers last then parts.dropLast ++ [['0'], ['0']] else parts
  | none => parts

def isEightNumbers (t : Text) : Bool :=
  let (numbers, zone) := t.span (· ≠ '%')
  let zoneFits := match zone with
    | [] => true
    | _ :: name => name ≠ [] && !name.contains '%'
  let parts := hextets numbers
  zoneFits && !t.contains '/' && 3 ≤ parts.length &&
    match cutAt "::" (join [':'] parts) with
    | none => parts.length = 8 && parts.all isHextet
    | some (before, rest) =>
      let count (side : Text) : Option Nat :=
        if side = [] then some 0
        else if (splitOn ':' side).all isHextet then some (splitOn ':' side).length
        else none
      match count before, count rest with
      | some n, some m => n + m ≤ 7
      | _, _ => false

def hostOf (host : Text) : Except AddressFault Text :=
  if host = [] then .ok []
  else if host.getLast?.any isAsciiDigit && isNumbers false 4 host then
    if isFourNumbers host then .ok host else .error (.notFourNumbers host)
  else if host.head? = some '[' ∧ host.getLast? = some ']' then
    let inside := host.tail.dropLast
    if isEightNumbers inside then .ok inside else .error (.notEightNumbers host)
  else if host.all Hostname.isAscii then .ok (byNumbers isHostSafe (host.map Char.toLower))
  else
    match Hostname.shown? host with
    | some shown => .ok shown
    | none => .error (.notHostname host)

def isDigits (t : Text) : Bool :=
  (splitOn '_' t).all fun part => part ≠ [] && part.all isDigit

def isSocket (t : Text) : Bool :=
  t = [] ||
    match trim t with
    | '+' :: r => isDigits r
    | '-' :: r => isDigits r
    | r => isDigits r

def cutUser (t : Text) : Text × Text :=
  match t.reverse.span (· ≠ '@') with
  | (rest, '@' :: user) => (user.reverse, rest.reverse)
  | _ => ([], t)

def cutSocket (t : Text) : Text × Text :=
  let (host, rest) :=
    match t, t.reverse.span (· ≠ ']') with
    | '[' :: _, (rest, ']' :: inside) => ((']' :: inside).reverse, rest.reverse)
    | _, _ => t.span (· ≠ ':')
  match rest with
  | ':' :: number => (host, number)
  | number => (host, number)

def collapse : List Text → List Text → List Text
  | seen, [] => seen.reverse
  | seen, p :: ps =>
    if p = ['.'] then collapse seen ps
    else if p = ['.', '.'] then
      if seen = [[]] then collapse seen ps else collapse seen.tail ps
    else collapse (p :: seen) ps

def pathOf (path : Text) : Text :=
  match join ['/'] (collapse [] (splitOn '/' path)) with
  | [] => ['/']
  | p => p

def isPathStart (c : Char) : Bool :=
  c = '/' || c = '?' || c = '#'

def isBeforeQuery (c : Char) : Bool :=
  c ≠ '?' && c ≠ '#'

def scheme : Text := "https://"

/-- Reads an address after its scheme. Without a host all slashes in front of the path count as one,
and there is no user. -/
def ofText (t : Text) : Except AddressFault Address :=
  if sizeLimit < (scheme ++ t).length then .error .tooLong
  else
    match t.find? isControl with
    | some c => .error (.control c (scheme.length + (t.takeWhile fun d => !isControl d).length))
    | none => do
      let (authority, rest) := t.span fun c => !isPathStart c
      let (user, place) := cutUser authority
      let (host, number) := cutSocket place
      let host ← hostOf host
      let path := pathOf (rest.takeWhile isBeforeQuery)
      if !isSocket number then .error (.notSocket number)
      else if host = [] then .ok ⟨[], [], [], plain ('/' :: path.dropWhile (· = '/'))⟩
      else
        let (name, password) := user.span (· ≠ ':')
        .ok ⟨plain name, plain password.tail, host, plain path⟩

end Address
end BattleScript.Download
