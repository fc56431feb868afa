import BattleScript.Json.Reader
import BattleScript.Names.Catalog
import BattleScript.Log
import BattleScript.Download.Address
import BattleScript.Text.Base64
import BattleScript.Text.Wide

/-!
Downloading a catalog: a token, then the index of pets, then the index of abilities. The first answer
that is not as expected ends the download.
-/
namespace BattleScript.Download
open Text Names

structure Request where
  method : Text
  host : Text
  path : Text
  params : List (Text × Text)
  authorization : Text
  body : Text
deriving DecidableEq, Repr

def Request.query (r : Request) : Text :=
  let isPlain (c : Char) : Bool := c.isAlphanum || c = '_' || c = '.' || c = '-' || c = '~' || c = ' '
  let written (t : Text) : Text :=
    (Address.byNumbers isPlain t).map fun c => if c = ' ' then '+' else c
  join ['&'] (r.params.map fun (key, value) => written key ++ '=' :: written value)

def Request.target (r : Request) : Text :=
  Address.byNumbers Address.isPathSafe r.path ++ '?' :: r.query

inductive Reply where
  | response (status : Int) (body : Bytes)
  | failure (message : Text)
deriving DecidableEq, Repr

inductive Error where
  | transport (what message : Text)
  | status (what : Text) (code : Int) (body : Text)
  | notJson (what : Text)
  | noToken
  | missingList (key : Text)
  | badEntry (key : Text)
  | notAscii (header : Symbols)
  | address (fault : AddressFault)
  | noHost (target : Text)
deriving DecidableEq, Repr

/-- Headers carry ASCII characters only. -/
def isHeaderSymbol (s : Symbol) : Bool :=
  s.char?.any Hostname.isAscii

namespace Error

def message : Error → Text
  | transport what message => what ++ " failed: " ++ message
  | status what code body => what ++ " failed: " ++ ofInt code ++ ' ' :: body
  | notJson what => what ++ " failed: response is not JSON"
  | noToken => "Auth failed: response has no access_token"
  | missingList key => "Unexpected index payload: missing '" ++ key ++ "' list"
  | badEntry key => "Unexpected index payload: '" ++ key ++ "' entry without id and name"
  | notAscii header => header.notEncodedMessage "ascii" "ordinal not in range(128)" isHeaderSymbol
  | address fault => fault.message
  | noHost target => "unknown url type: " ++ quoted target

def statusCode : Error → Option Int
  | status _ code _ => some code
  | notJson _ => some 200
  | _ => none

def isReported : Error → Bool
  | notAscii _ => false
  | address _ => false
  | noHost _ => false
  | _ => true

end Error

/-- The replies still to come, the requests sent so far, and the log. -/
structure Session where
  replies : List Reply
  sent : List Request
  log : List LogRecord
deriving DecidableEq, Repr

abbrev Fetch := EStateM Error Session

def logSource : Text := "petscript.core.catalog_fetch"

def info (message : Text) : Fetch Unit :=
  modify fun s => { s with log := s.log ++ [⟨.info, logSource, message⟩] }

def send (request : Request) : Fetch Reply := do
  let s ← get
  match s.replies with
  | [] =>
    set { s with sent := s.sent ++ [request] }
    return .failure "no response"
  | reply :: replies =>
    set { s with replies, sent := s.sent ++ [request] }
    return reply

def jsonOf? (body : Bytes) : Option (Json Symbols) :=
  match Wide.decode? body with
  | some document => (Json.read document).toOption
  | none => none

def valueOf (what : Text) (request : Request) : Reply → Except Error (Json Symbols)
  | .failure message => .error (.transport what message)
  | .response status body =>
    if request.host = [] then .error (.noHost request.target)
    else if status ≠ 200 then .error (.status what status (Utf8.decodeLossy body))
    else match jsonOf? body with
      | some v => .ok v
      | none => .error (.notJson what)

def ask (what : Text) (request : Request) : Fetch (Json Symbols) := do
  match valueOf what request (← send request) with
  | .ok v => return v
  | .error e => throw e

structure Client where
  id : Text
  secret : Text
  region : Text
  locale : Text
deriving DecidableEq, Repr

def Client.apiHost (c : Client) : Text :=
  c.region ++ ".api.blizzard.com"

def Client.apiUrl (c : Client) : Text :=
  Address.scheme ++ c.apiHost

def basic (user password : Text) : Text :=
  "Basic " ++ Base64.encode (Utf8.encode (user ++ ':' :: password))

def Client.tokenRequest (c : Client) : Request :=
  { method := "POST"
    host := "oauth.battle.net"
    path := "/token"
    params := []
    authorization := basic c.id c.secret
    body := "grant_type=client_credentials" }

def bearer (token : Symbols) : Except Error Text :=
  let header := symbols "Bearer " ++ token
  match header.text? with
  | some text => if text.all Hostname.isAscii then .ok text else .error (.notAscii header)
  | none => .error (.notAscii header)

def checkQuery (r : Request) : Except Error Request :=
  if Address.sizeLimit < r.query.length then .error (.address .queryTooLong) else .ok r

def Client.indexRequest (c : Client) (token : Symbols) (path : Text) : Except Error Request := do
  let address ← (Address.ofText (c.apiHost ++ path)).mapError .address
  let header ← bearer token
  checkQuery {
    method := "GET"
    host := address.host
    path := address.path
    params := [("namespace", "static-" ++ c.region), ("locale", c.locale)]
    authorization :=
      if address.user = [] ∧ address.password = [] then header else basic address.user address.password
    body := [] }

def tokenOf (v : Json Symbols) : Except Error Symbols :=
  match v.field? (symbols "access_token") with
  | some token => .ok token.label
  | none => .error .noToken

def entryOf? (v : Json Symbols) : Option (Symbols × Symbols) :=
  match v.field? (symbols "id"), v.field? (symbols "name") with
  | some id, some name => some (id.label, name.label)
  | _, _ => none

def entriesOf (key : Text) : List (Json Symbols) → Except Error (List (Symbols × Symbols))
  | [] => .ok []
  | v :: vs =>
    match entryOf? v with
    | none => .error (.badEntry key)
    | some pair => (entriesOf key vs).map (pair :: ·)

def namesOf (key : Text) (index : Json Symbols) : Except Error (NameMap Symbols) :=
  match index.field? key.symbols with
  | some (.array entries) => (entriesOf key entries).map NameMap.ofList
  | _ => .error (.missingList key)

def lift : Except Error α → Fetch α
  | .ok a => pure a
  | .error e => throw e

def token (c : Client) : Fetch Symbols := do
  lift (tokenOf (← ask "Auth" c.tokenRequest))

def index (c : Client) (token : Symbols) (path what key : Text) : Fetch (NameMap Symbols) := do
  let request ← lift (c.indexRequest token path)
  lift (namesOf key (← ask what request))

def catalog (c : Client) : Fetch (Catalog Symbols) := do
  info "Getting access token..."
  let token ← token c
  info "Fetching pet index..."
  let pets ← index c token "/data/wow/pet/index" "Pet index fetch" "pets"
  info ("Found " ++ ofNat pets.size ++ " pets")
  info "Fetching pet ability index..."
  let abilities ← index c token "/data/wow/pet-ability/index" "Pet ability index fetch" "abilities"
  info ("Found " ++ ofNat abilities.size ++ " abilities")
  return ⟨abilities, pets⟩

/-- A whole download: the catalog or the error, and the session after it. -/
def run (c : Client) (replies : List Reply) : Except Error (Catalog Symbols) × Session :=
  match catalog c ⟨replies, [], []⟩ with
  | .ok catalog s => (.ok catalog, s)
  | .error e s => (.error e, s)

end BattleScript.Download
