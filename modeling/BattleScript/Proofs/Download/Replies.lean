import Mathlib.Data.List.Forall2
import Mathlib.Data.List.Induction
import BattleScript.Download

/-!
What a download makes of the replies to its requests. Each request is sent only after all replies before
it were good, and the first reply that is not good ends the download with an error that tells what was
wrong with it. With three good replies there is a catalog, in which every id has the name that was listed
for it last, at the place where it was listed first.
-/
namespace BattleScript.Assoc

theorem keys_put {κ : Type} [DecidableEq κ] (k : κ) (v : α) (m : List (κ × α)) :
    keys (put k v m) = if k ∈ keys m then keys m else keys m ++ [k] := by
  induction m with
  | nil => rfl
  | cons p r ih =>
    obtain ⟨k', v'⟩ := p
    simp only [keys] at ih
    by_cases hk : k' = k
    · simp [put, keys, hk]
    · by_cases hr : k ∈ r.map Prod.fst
      · simp only [hr, if_true] at ih
        simp [put, keys, hk, ih, hr]
      · simp only [hr, if_false] at ih
        simp [put, keys, hk, ih, hr, Ne.symm hk]

end BattleScript.Assoc

namespace BattleScript.Names.NameMap
open Text

theorem ofList_snoc (pairs : List (Symbols × Symbols)) (p : Symbols × Symbols) :
    ofList (pairs ++ [p]) = (ofList pairs).put p.1 p.2 := by
  rw [ofList, List.foldl_append]
  rfl

theorem keys_ofList (pairs : List (Symbols × Symbols)) :
    Assoc.keys (ofList pairs).entries = (pairs.map Prod.fst).eraseDups := by
  -- Pairs are put in from the first to the last, so the induction takes the last one off.
  induction pairs using List.reverseRecOn with
  | nil => rfl
  | append_singleton pairs p ih =>
    have hput : ((ofList pairs).put p.1 p.2).entries = Assoc.put p.1 p.2 (ofList pairs).entries := rfl
    rw [ofList_snoc, hput, Assoc.keys_put, ih, List.map_append, List.eraseDups_append]
    by_cases hp : p.1 ∈ pairs.map Prod.fst
    · have hnew : (List.map Prod.fst [p]).removeAll (pairs.map Prod.fst) = [] := by
        simpa [List.removeAll] using hp
      rw [if_pos (List.mem_eraseDups.2 hp), hnew]
      exact (List.append_nil _).symm
    · have hnew : (List.map Prod.fst [p]).removeAll (pairs.map Prod.fst) = [p.1] := by
        simpa [List.removeAll] using hp
      rw [if_neg (mt List.mem_eraseDups.1 hp), hnew]
      rfl

theorem snoc_eq_append_cons_iff {pairs before behind : List α} {p q : α} :
    pairs ++ [q] = before ++ p :: behind ↔
      (pairs = before ∧ q = p ∧ behind = []) ∨ ∃ b, behind = b ++ [q] ∧ pairs = before ++ p :: b := by
  constructor
  · intro h
    rcases List.eq_nil_or_concat behind with rfl | ⟨b, last, rfl⟩
    · obtain ⟨hpairs, hlast⟩ := List.append_inj' h rfl
      exact .inl ⟨hpairs, List.head_eq_of_cons_eq hlast, rfl⟩
    · rw [List.concat_eq_append, ← List.cons_append, ← List.append_assoc] at h
      obtain ⟨hpairs, hlast⟩ := List.append_inj' h rfl
      rw [List.concat_eq_append, List.head_eq_of_cons_eq hlast]
      exact .inr ⟨b, rfl, hpairs⟩
  · rintro (⟨rfl, rfl, rfl⟩ | ⟨b, rfl, rfl⟩)
    · rfl
    · rw [List.append_assoc, List.cons_append]

theorem get?_ofList_eq_some_iff (pairs : List (Symbols × Symbols)) (id name : Symbols) :
    (ofList pairs).get? id = some name ↔
      ∃ before behind, pairs = before ++ (id, name) :: behind ∧ id ∉ behind.map Prod.fst := by
  induction pairs using List.reverseRecOn with
  | nil => simp [ofList, empty, get?, Assoc.get?]
  | append_singleton pairs p ih =>
    obtain ⟨k, v⟩ := p
    have hput : (ofList (pairs ++ [(k, v)])).get? id =
        if k = id then some v else (ofList pairs).get? id := by
      rw [ofList_snoc]
      exact Assoc.get?_put k id v (ofList pairs).entries
    rw [hput]
    constructor
    · intro h
      split_ifs at h with hk
      · subst hk
        cases h
        exact ⟨pairs, [], rfl, List.not_mem_nil⟩
      · obtain ⟨before, behind, rfl, hlast⟩ := ih.1 h
        refine ⟨before, behind ++ [(k, v)], by simp, ?_⟩
        simp only [List.map_append, List.mem_append, not_or]
        exact ⟨hlast, by simpa using Ne.symm hk⟩
    · rintro ⟨before, behind, hpairs, hlast⟩
      rcases snoc_eq_append_cons_iff.1 hpairs with ⟨-, heq, -⟩ | ⟨b, rfl, rfl⟩
      · cases heq
        exact if_pos rfl
      · simp only [List.map_append, List.mem_append, not_or] at hlast
        have hk : k ≠ id := fun h => hlast.2 (by simp [h])
        rw [if_neg hk]
        exact ih.2 ⟨before, b, rfl, hlast.1⟩

end BattleScript.Names.NameMap

namespace BattleScript.Download
open Text Names

def replyTo (replies : List Reply) (number : Nat) : Reply :=
  replies.getD number (.failure "no response")

def Reply.Carries (reply : Reply) (v : Json Symbols) : Prop :=
  ∃ body, reply = .response 200 body ∧ jsonOf? body = some v

def Reply.Faulty (reply : Reply) (code : Int) : Prop :=
  ∃ body, reply = .response code body ∧ (code ≠ 200 ∨ jsonOf? body = none)

def Reply.GivesToken (reply : Reply) (token : Symbols) : Prop :=
  ∃ v, reply.Carries v ∧ ∃ x, v.field? (symbols "access_token") = some x ∧ token = x.label

def IsEntry (v : Json Symbols) (pair : Symbols × Symbols) : Prop :=
  ∃ id name, v.field? (symbols "id") = some id ∧ v.field? (symbols "name") = some name ∧
    pair = (id.label, name.label)

def Reply.Lists (reply : Reply) (key : Text) (pairs : List (Symbols × Symbols)) : Prop :=
  ∃ v, reply.Carries v ∧ ∃ items, v.field? key.symbols = some (.array items) ∧
    List.Forall₂ IsEntry items pairs

theorem tokenOf_eq_ok_iff {v : Json Symbols} {token : Symbols} :
    tokenOf v = .ok token ↔ ∃ x, v.field? (symbols "access_token") = some x ∧ token = x.label := by
  unfold tokenOf
  cases v.field? (symbols "access_token") <;> simp [eq_comm]

theorem eq_noToken_of_tokenOf {v : Json Symbols} {e : Error} (h : tokenOf v = .error e) : e = .noToken := by
  unfold tokenOf at h
  cases hfield : v.field? (symbols "access_token") <;> simp_all

theorem entryOf?_eq_some_iff {v : Json Symbols} {pair : Symbols × Symbols} :
    entryOf? v = some pair ↔ IsEntry v pair := by
  unfold entryOf? IsEntry
  cases v.field? (symbols "id") <;> cases v.field? (symbols "name") <;> simp [eq_comm]

theorem entriesOf_eq_ok_iff (key : Text) {items : List (Json Symbols)} {pairs : List (Symbols × Symbols)} :
    entriesOf key items = .ok pairs ↔ List.Forall₂ IsEntry items pairs := by
  induction items generalizing pairs with
  | nil => simp [entriesOf, eq_comm]
  | cons v items ih =>
    rw [entriesOf, List.forall₂_cons_left_iff]
    simp only [← entryOf?_eq_some_iff, ← ih]
    cases entryOf? v with
    | none => simp
    | some pair => cases entriesOf key items <;> simp [Except.map, eq_comm]

theorem eq_badEntry_of_entriesOf {key : Text} {items : List (Json Symbols)} {e : Error}
    (h : entriesOf key items = .error e) : e = .badEntry key := by
  induction items with
  | nil => cases h
  | cons v items ih =>
    rw [entriesOf] at h
    cases hentry : entryOf? v with
    | none =>
      rw [hentry] at h
      cases h
      rfl
    | some pair =>
      rw [hentry] at h
      cases hrest : entriesOf key items with
      | ok pairs =>
        rw [hrest] at h
        cases h
      | error e' =>
        rw [hrest] at h
        cases h
        exact ih hrest

theorem namesOf_eq_ok_iff {key : Text} {v : Json Symbols} {names : NameMap Symbols} :
    namesOf key v = .ok names ↔ ∃ items pairs, v.field? key.symbols = some (.array items) ∧
      List.Forall₂ IsEntry items pairs ∧ names = NameMap.ofList pairs := by
  simp only [← entriesOf_eq_ok_iff key]
  unfold namesOf
  split
  · rename_i items hitems
    cases hentries : entriesOf key items <;> simp [hitems, hentries, Except.map, eq_comm]
  · rename_i hother
    constructor
    · exact nofun
    · rintro ⟨items, pairs, hitems, -, -⟩
      exact absurd hitems (hother items)

theorem namesOf_error {key : Text} {v : Json Symbols} {e : Error} (h : namesOf key v = .error e) :
    e = .missingList key ∨ e = .badEntry key := by
  unfold namesOf at h
  split at h
  · rename_i items hitems
    cases hentries : entriesOf key items with
    | ok pairs =>
      rw [hentries] at h
      cases h
    | error e' =>
      rw [hentries] at h
      cases h
      exact .inr (eq_badEntry_of_entriesOf hentries)
  · cases h
    exact .inl rfl

def outcome (what : Text) (request : Request) (read : Json Symbols → Except Error α) (reply : Reply) :
    Except Error α :=
  (valueOf what request reply).bind read

structure Error.Tells (e : Error) (reply : Reply) : Prop where
  reported : e.isReported = true
  status : ∀ code, e.statusCode = some code ↔ reply.Faulty code

def ReportsPlainly (read : Json Symbols → Except Error α) : Prop :=
  ∀ v e, read v = .error e → e.isReported = true ∧ e.statusCode = none

theorem reportsPlainly_tokenOf : ReportsPlainly tokenOf := by
  intro v e h
  rw [eq_noToken_of_tokenOf h]
  exact ⟨rfl, rfl⟩

theorem reportsPlainly_namesOf (key : Text) : ReportsPlainly (namesOf key) := by
  intro v e h
  rcases namesOf_error h with rfl | rfl <;> exact ⟨rfl, rfl⟩

theorem Reply.Carries.not_faulty {reply : Reply} {v : Json Symbols} (h : reply.Carries v) (code : Int) :
    ¬ reply.Faulty code := by
  obtain ⟨body, rfl, hv⟩ := h
  rintro ⟨body', heq, hcode | hnone⟩
  · cases heq
    exact hcode rfl
  · cases heq
    rw [hv] at hnone
    cases hnone

section Outcomes
variable {what : Text} {request : Request} {reply : Reply} (hhost : request.host ≠ [])
include hhost

theorem valueOf_eq_ok_iff {v : Json Symbols} : valueOf what request reply = .ok v ↔ reply.Carries v := by
  cases reply with
  | failure message => simp [valueOf, Reply.Carries]
  | response status body =>
    by_cases hstatus : status = 200
    · cases hbody : jsonOf? body <;> simp [valueOf, Reply.Carries, hhost, hstatus, hbody]
    · simp [valueOf, Reply.Carries, hhost, hstatus]

theorem valueOf_error_tells {e : Error} (h : valueOf what request reply = .error e) : e.Tells reply := by
  cases reply with
  | failure message =>
    cases h
    exact ⟨rfl, fun code => ⟨nofun, fun ⟨_, h, _⟩ => nomatch h⟩⟩
  | response status body =>
    rw [valueOf, if_neg hhost] at h
    by_cases hstatus : status = 200
    · rw [if_neg (not_not.2 hstatus)] at h
      cases hbody : jsonOf? body with
      | some v =>
        rw [hbody] at h
        cases h
      | none =>
        rw [hbody] at h
        cases h
        refine ⟨rfl, fun code => ?_⟩
        simp [Error.statusCode, Reply.Faulty, hbody, hstatus]
    · rw [if_pos hstatus] at h
      cases h
      refine ⟨rfl, fun code => ?_⟩
      simp only [Error.statusCode, Reply.Faulty]
      constructor
      · rintro ⟨⟩
        exact ⟨body, rfl, .inl hstatus⟩
      · rintro ⟨_, ⟨⟩, -⟩
        rfl

theorem outcome_eq_ok_iff {read : Json Symbols → Except Error α} {a : α} :
    outcome what request read reply = .ok a ↔ ∃ v, reply.Carries v ∧ read v = .ok a := by
  have hvalue (v : Json Symbols) : reply.Carries v ↔ valueOf what request reply = .ok v :=
    (valueOf_eq_ok_iff hhost).symm
  simp only [hvalue, outcome]
  cases valueOf what request reply <;> simp [Except.bind]

theorem outcome_error_tells {read : Json Symbols → Except Error α} (hread : ReportsPlainly read) {e : Error}
    (h : outcome what request read reply = .error e) : e.Tells reply := by
  unfold outcome at h
  cases hvalue : valueOf what request reply with
  | error e' =>
    rw [hvalue] at h
    cases h
    exact valueOf_error_tells hhost hvalue
  | ok v =>
    rw [hvalue] at h
    obtain ⟨hreported, hstatus⟩ := hread v e h
    have hcarries : reply.Carries v := (valueOf_eq_ok_iff hhost).1 hvalue
    exact ⟨hreported, fun code => by simp [hstatus, hcarries.not_faulty code]⟩

end Outcomes

theorem replyTo_tail (replies : List Reply) (number : Nat) :
    replyTo replies.tail number = replyTo replies (number + 1) := by
  cases replies <;> rfl

def Session.asked (s : Session) (request : Request) : Session :=
  { s with replies := s.replies.tail, sent := s.sent ++ [request] }

def Session.noted (s : Session) (message : Text) : Session :=
  { s with log := s.log ++ [⟨.info, logSource, message⟩] }

def ended (s : Session) : Except Error α → EStateM.Result Error Session α
  | .ok a => .ok a s
  | .error e => .error e s

theorem bind_of_ok {x : Fetch α} {f : α → Fetch β} {s s' : Session} {a : α} (h : x s = .ok a s') :
    (x >>= f) s = f a s' := by
  change EStateM.bind x f s = f a s'
  rw [EStateM.bind, h]

theorem bind_of_error {x : Fetch α} {f : α → Fetch β} {s s' : Session} {e : Error}
    (h : x s = .error e s') : (x >>= f) s = .error e s' := by
  change EStateM.bind x f s = .error e s'
  rw [EStateM.bind, h]

theorem info_eq (message : Text) (s : Session) : info message s = .ok () (s.noted message) := rfl

theorem send_eq (request : Request) (s : Session) :
    send request s = .ok (replyTo s.replies 0) (s.asked request) := by
  obtain ⟨replies, sent, log⟩ := s
  cases replies <;> rfl

theorem ask_eq (what : Text) (request : Request) (s : Session) :
    ask what request s = ended (s.asked request) (valueOf what request (replyTo s.replies 0)) := by
  rw [ask, bind_of_ok (send_eq request s)]
  cases valueOf what request (replyTo s.replies 0) <;> rfl

theorem lift_ask_eq (what : Text) (request : Request) (read : Json Symbols → Except Error α) (s : Session) :
    (ask what request >>= fun v => lift (read v)) s =
      ended (s.asked request) (outcome what request read (replyTo s.replies 0)) := by
  have hask := ask_eq what request s
  unfold outcome
  cases hvalue : valueOf what request (replyTo s.replies 0) with
  | error e =>
    rw [hvalue] at hask
    rw [bind_of_error hask]
    rfl
  | ok v =>
    rw [hvalue] at hask
    rw [bind_of_ok hask, Except.bind]
    cases read v <;> rfl

theorem host_tokenRequest (c : Client) : c.tokenRequest.host ≠ [] := by
  change of "oauth.battle.net" ≠ []
  decide

theorem tokenOutcome_eq_ok_iff (c : Client) {reply : Reply} {token : Symbols} :
    outcome "Auth" c.tokenRequest tokenOf reply = .ok token ↔ reply.GivesToken token := by
  rw [outcome_eq_ok_iff (host_tokenRequest c)]
  simp only [tokenOf_eq_ok_iff, Reply.GivesToken]

theorem namesOutcome_eq_ok_iff {what key : Text} {request : Request} (hhost : request.host ≠ [])
    {reply : Reply} {names : NameMap Symbols} :
    outcome what request (namesOf key) reply = .ok names ↔
      ∃ pairs, reply.Lists key pairs ∧ names = .ofList pairs := by
  rw [outcome_eq_ok_iff hhost]
  simp only [namesOf_eq_ok_iff, Reply.Lists]
  constructor
  · rintro ⟨v, hv, items, pairs, hitems, hpairs, rfl⟩
    exact ⟨pairs, ⟨v, hv, items, hitems, hpairs⟩, rfl⟩
  · rintro ⟨pairs, ⟨v, hv, items, hitems, hpairs⟩, rfl⟩
    exact ⟨v, hv, items, pairs, hitems, hpairs, rfl⟩

theorem token_cases (c : Client) (s : Session) :
    (∃ e, token c s = .error e (s.asked c.tokenRequest) ∧
      (∀ token, ¬ (replyTo s.replies 0).GivesToken token) ∧ e.Tells (replyTo s.replies 0)) ∨
    ∃ text, token c s = .ok text (s.asked c.tokenRequest) ∧ (replyTo s.replies 0).GivesToken text := by
  have hask : token c s = ended (s.asked c.tokenRequest)
      (outcome "Auth" c.tokenRequest tokenOf (replyTo s.replies 0)) := lift_ask_eq _ _ _ s
  rw [hask]
  cases hresult : outcome "Auth" c.tokenRequest tokenOf (replyTo s.replies 0) with
  | error e =>
    have hnone (token : Symbols) (htoken : (replyTo s.replies 0).GivesToken token) : False := by
      rw [(tokenOutcome_eq_ok_iff c).2 htoken] at hresult
      cases hresult
    exact .inl ⟨e, rfl, hnone, outcome_error_tells (host_tokenRequest c) reportsPlainly_tokenOf hresult⟩
  | ok text => exact .inr ⟨text, rfl, (tokenOutcome_eq_ok_iff c).1 hresult⟩

theorem index_cases {c : Client} {token : Symbols} {path : Text} {request : Request}
    (hrequest : c.indexRequest token path = .ok request) (hhost : request.host ≠ []) (what key : Text)
    {s : Session} {reply : Reply} (hreply : replyTo s.replies 0 = reply) :
    (∃ e, index c token path what key s = .error e (s.asked request) ∧
      (∀ pairs, ¬ reply.Lists key pairs) ∧ e.Tells reply) ∨
    ∃ pairs, index c token path what key s = .ok (.ofList pairs) (s.asked request) ∧
      reply.Lists key pairs := by
  have hask : index c token path what key s =
      ended (s.asked request) (outcome what request (namesOf key) reply) := by
    rw [index, hrequest, ← hreply]
    exact lift_ask_eq what request (namesOf key) s
  rw [hask]
  cases hresult : outcome what request (namesOf key) reply with
  | error e =>
    have hnone (pairs : List (Symbols × Symbols)) (hpairs : reply.Lists key pairs) : False := by
      rw [(namesOutcome_eq_ok_iff hhost).2 ⟨pairs, hpairs, rfl⟩] at hresult
      cases hresult
    exact .inl ⟨e, rfl, hnone, outcome_error_tells hhost (reportsPlainly_namesOf key) hresult⟩
  | ok names =>
    obtain ⟨pairs, hpairs, rfl⟩ := (namesOutcome_eq_ok_iff hhost).1 hresult
    exact .inr ⟨pairs, rfl, hpairs⟩

def Client.Reaches (c : Client) (path : Text) : Prop :=
  ∀ token : Symbols, token.all isHeaderSymbol = true →
    ∃ request, c.indexRequest token path = .ok request ∧ request.host ≠ []

/-- The ways a download can go, with the requests that are sent on each. -/
inductive Course (c : Client) (replies : List Reply) :
    Except Error (Catalog Symbols) → List Request → Prop where
  | noToken {e : Error} (hnone : ∀ token, ¬ (replyTo replies 0).GivesToken token)
      (he : e.Tells (replyTo replies 0)) :
    Course c replies (.error e) [c.tokenRequest]
  | noPets {token : Symbols} {petRequest : Request} {e : Error}
      (htoken : (replyTo replies 0).GivesToken token)
      (hpet : c.indexRequest token "/data/wow/pet/index" = .ok petRequest)
      (hnone : ∀ pairs, ¬ (replyTo replies 1).Lists "pets" pairs) (he : e.Tells (replyTo replies 1)) :
    Course c replies (.error e) [c.tokenRequest, petRequest]
  | noAbilities {token : Symbols} {petRequest abilityRequest : Request} {pets : List (Symbols × Symbols)}
      {e : Error} (htoken : (replyTo replies 0).GivesToken token)
      (hpet : c.indexRequest token "/data/wow/pet/index" = .ok petRequest)
      (hpets : (replyTo replies 1).Lists "pets" pets)
      (hability : c.indexRequest token "/data/wow/pet-ability/index" = .ok abilityRequest)
      (hnone : ∀ pairs, ¬ (replyTo replies 2).Lists "abilities" pairs)
      (he : e.Tells (replyTo replies 2)) :
    Course c replies (.error e) [c.tokenRequest, petRequest, abilityRequest]
  | done {token : Symbols} {petRequest abilityRequest : Request} {pets abilities : List (Symbols × Symbols)}
      (htoken : (replyTo replies 0).GivesToken token)
      (hpet : c.indexRequest token "/data/wow/pet/index" = .ok petRequest)
      (hpets : (replyTo replies 1).Lists "pets" pets)
      (hability : c.indexRequest token "/data/wow/pet-ability/index" = .ok abilityRequest)
      (habilities : (replyTo replies 2).Lists "abilities" abilities) :
    Course c replies (.ok ⟨.ofList abilities, .ofList pets⟩) [c.tokenRequest, petRequest, abilityRequest]

theorem course_run {c : Client} {replies : List Reply} (hpets : c.Reaches "/data/wow/pet/index")
    (habilities : c.Reaches "/data/wow/pet-ability/index")
    (hascii : ∀ token, (replyTo replies 0).GivesToken token → token.all isHeaderSymbol = true) :
    Course c replies (run c replies).1 (run c replies).2.sent := by
  -- The sessions in front of the three requests; each request is made only if the one before was good.
  let s₁ := (⟨replies, [], []⟩ : Session).noted "Getting access token..."
  rw [run, catalog, bind_of_ok (info_eq _ _)]
  obtain ⟨e, hauth, hnone, he⟩ | ⟨token, hauth, htoken⟩ := token_cases c s₁
  · rw [bind_of_error hauth]
    exact .noToken hnone he
  let s₂ := (s₁.asked c.tokenRequest).noted "Fetching pet index..."
  have hreply₂ : replyTo s₂.replies 0 = replyTo replies 1 := replyTo_tail replies 0
  obtain ⟨petRequest, hpet, hhost⟩ := hpets token (hascii token htoken)
  rw [bind_of_ok hauth, bind_of_ok (info_eq _ _)]
  obtain ⟨e, hindex, hnone, he⟩ | ⟨pets, hindex, hlist⟩ :=
    index_cases hpet hhost "Pet index fetch" "pets" hreply₂
  · rw [bind_of_error hindex]
    exact .noPets htoken hpet hnone he
  let s₃ := ((s₂.asked petRequest).noted
    ("Found " ++ ofNat (NameMap.ofList pets).size ++ " pets")).noted "Fetching pet ability index..."
  have hreply₃ : replyTo s₃.replies 0 = replyTo replies 2 :=
    (replyTo_tail replies.tail 0).trans (replyTo_tail replies 1)
  obtain ⟨abilityRequest, hability, hhost'⟩ := habilities token (hascii token htoken)
  rw [bind_of_ok hindex, bind_of_ok (info_eq _ _), bind_of_ok (info_eq _ _)]
  obtain ⟨e, hindex', hnone, he⟩ | ⟨abilities, hindex', hlist'⟩ :=
    index_cases hability hhost' "Pet ability index fetch" "abilities" hreply₃
  · rw [bind_of_error hindex']
    exact .noAbilities htoken hpet hlist hability hnone he
  · rw [bind_of_ok hindex', bind_of_ok (info_eq _ _)]
    exact .done htoken hpet hlist hability hlist'

theorem Reply.Carries.unique {reply : Reply} {v w : Json Symbols} (hv : reply.Carries v)
    (hw : reply.Carries w) : v = w := by
  obtain ⟨body, rfl, hv⟩ := hv
  obtain ⟨body', heq, hw⟩ := hw
  cases heq
  exact Option.some.inj (hv.symm.trans hw)

theorem Reply.GivesToken.unique {reply : Reply} {t u : Symbols} (ht : reply.GivesToken t)
    (hu : reply.GivesToken u) : t = u := by
  obtain ⟨v, hv, x, hx, rfl⟩ := ht
  obtain ⟨w, hw, y, hy, rfl⟩ := hu
  cases hv.unique hw
  exact congrArg Json.label (Option.some.inj (hx.symm.trans hy))

structure Merges (pairs : List (Symbols × Symbols)) (names : NameMap Symbols) : Prop where
  places : Assoc.keys names.entries = (pairs.map Prod.fst).eraseDups
  last : ∀ id name, names.get? id = some name ↔
    ∃ before behind, pairs = before ++ (id, name) :: behind ∧ id ∉ behind.map Prod.fst

theorem merges_ofList (pairs : List (Symbols × Symbols)) : Merges pairs (.ofList pairs) :=
  ⟨NameMap.keys_ofList pairs, NameMap.get?_ofList_eq_some_iff pairs⟩

/-- What a download makes of the replies to its requests. -/
structure Heeds (c : Client) (replies : List Reply) (result : Except Error (Catalog Symbols))
    (sent : List Request) : Prop where
  stops : (∀ token, ¬ (replyTo replies 0).GivesToken token) → sent = [c.tokenRequest]
  asks : ∀ token, (replyTo replies 0).GivesToken token →
    ∃ petRequest, c.indexRequest token "/data/wow/pet/index" = .ok petRequest ∧
      ((∀ pairs, ¬ (replyTo replies 1).Lists "pets" pairs) → sent = [c.tokenRequest, petRequest]) ∧
      ∀ pairs, (replyTo replies 1).Lists "pets" pairs →
        ∃ abilityRequest, c.indexRequest token "/data/wow/pet-ability/index" = .ok abilityRequest ∧
          sent = [c.tokenRequest, petRequest, abilityRequest]
  succeeds : (∃ catalog, result = .ok catalog) ↔
    (∃ token, (replyTo replies 0).GivesToken token) ∧
      (∃ pairs, (replyTo replies 1).Lists "pets" pairs) ∧
      ∃ pairs, (replyTo replies 2).Lists "abilities" pairs
  reports : ∀ e, result = .error e → e.Tells (replyTo replies (sent.length - 1))
  merges : ∀ catalog, result = .ok catalog → ∃ pets abilities,
    (replyTo replies 1).Lists "pets" pets ∧ Merges pets catalog.pets ∧
      (replyTo replies 2).Lists "abilities" abilities ∧ Merges abilities catalog.abilities

theorem Course.heeds {c : Client} {replies : List Reply} {result : Except Error (Catalog Symbols)}
    {sent : List Request} (h : Course c replies result sent) : Heeds c replies result sent where
  stops hnone := by
    cases h with
    | noToken => rfl
    | noPets htoken | noAbilities htoken | done htoken => exact absurd htoken (hnone _)
  asks token htoken := by
    cases h with
    | noToken hnone => exact absurd htoken (hnone token)
    | noPets htoken' hpet hnone =>
      cases htoken.unique htoken'
      exact ⟨_, hpet, fun _ => rfl, fun pairs hpairs => absurd hpairs (hnone pairs)⟩
    | noAbilities htoken' hpet hpets hability | done htoken' hpet hpets hability =>
      cases htoken.unique htoken'
      exact ⟨_, hpet, fun hnone => absurd hpets (hnone _), fun _ _ => ⟨_, hability, rfl⟩⟩
  succeeds := by
    constructor
    · rintro ⟨catalog, rfl⟩
      cases h with
      | done htoken _ hpets _ habilities => exact ⟨⟨_, htoken⟩, ⟨_, hpets⟩, ⟨_, habilities⟩⟩
    · rintro ⟨⟨token, htoken⟩, ⟨pets, hpets⟩, abilities, habilities⟩
      cases h with
      | noToken hnone => exact absurd htoken (hnone token)
      | noPets _ _ hnone => exact absurd hpets (hnone pets)
      | noAbilities _ _ _ _ hnone => exact absurd habilities (hnone abilities)
      | done => exact ⟨_, rfl⟩
  reports e he := by
    subst he
    cases h with
    | noToken _ htells | noPets _ _ _ htells | noAbilities _ _ _ _ _ htells => exact htells
  merges catalog hcatalog := by
    subst hcatalog
    cases h with
    | done _ _ hpets _ habilities =>
      exact ⟨_, _, hpets, merges_ofList _, habilities, merges_ofList _⟩

/-- A download succeeds on three good replies and on no others. It stops at the first reply that is not
good. -/
theorem run_heeds {c : Client} {replies : List Reply} (hpets : c.Reaches "/data/wow/pet/index")
    (habilities : c.Reaches "/data/wow/pet-ability/index")
    (hascii : ∀ token, (replyTo replies 0).GivesToken token → token.all isHeaderSymbol = true) :
    Heeds c replies (run c replies).1 (run c replies).2.sent :=
  (course_run hpets habilities hascii).heeds

theorem text?_of_all {t : Symbols} (h : t.all isHeaderSymbol = true) :
    ∃ text, t.text? = some text ∧ text.all Hostname.isAscii = true := by
  induction t with
  | nil => exact ⟨[], rfl, rfl⟩
  | cons s t ih =>
    obtain ⟨hs, ht⟩ := Bool.and_eq_true_iff.1 h
    obtain ⟨text, htext, hascii⟩ := ih ht
    cases s with
    | half => cases hs
    | char c =>
      refine ⟨c :: text, ?_, Bool.and_eq_true_iff.2 ⟨hs, hascii⟩⟩
      rw [Symbols.text?, List.mapM_cons, ← Symbols.text?, htext]
      rfl

theorem bearer_isOk {token : Symbols} (h : token.all isHeaderSymbol = true) :
    ∃ header, bearer token = .ok header := by
  have hall : (symbols "Bearer " ++ token).all isHeaderSymbol = true := by
    rw [List.all_append, h]
    decide
  obtain ⟨header, hheader, hascii⟩ := text?_of_all hall
  exact ⟨header, by simp only [bearer, hheader, hascii, if_true]⟩

theorem Client.reaches_of_address {c : Client} {path : Text} {address : Address}
    (haddress : Address.ofText (c.apiHost ++ path) = .ok address) (hhost : address.host ≠ [])
    (hquery : (Request.mk [] [] [] [("namespace", "static-" ++ c.region), ("locale", c.locale)]
      [] []).query.length ≤ Address.sizeLimit) : c.Reaches path := by
  intro token hascii
  obtain ⟨header, hbearer⟩ := bearer_isOk hascii
  rw [Client.indexRequest, haddress, hbearer]
  exact ⟨_, if_neg (Nat.not_lt.2 hquery), hhost⟩

def europe : Client := ⟨"id", "secret", "eu", "de_DE"⟩

def goodReplies : List Reply :=
  [.response 200 (Utf8.encode "\x7b\"access_token\": \"t\"\x7d"),
    .response 200 (Utf8.encode ("\x7b\"pets\": [\x7b\"id\": 1, \"name\": \"Cat\"\x7d, " ++
      "\x7b\"id\": 2, \"name\": \"Dog\"\x7d, \x7b\"id\": \"1\", \"name\": \"Lion\"\x7d]\x7d")),
    .response 200 (Utf8.encode ("\x7b\"abilities\": [\x7b\"id\": \"\\ud800\", \"name\": \"Zap\"\x7d, " ++
      "\x7b\"id\": \"\\ud801\", \"name\": \"Claw\"\x7d]\x7d"))]

theorem run_heeds_europe :
    europe.Reaches "/data/wow/pet/index" ∧ europe.Reaches "/data/wow/pet-ability/index" ∧
      (replyTo goodReplies 0).GivesToken (symbols "t") ∧
      Heeds europe goodReplies (run europe goodReplies).1 (run europe goodReplies).2.sent := by
  have hpet : Address.ofText (europe.apiHost ++ "/data/wow/pet/index") =
      .ok ⟨[], [], "eu.api.blizzard.com", "/data/wow/pet/index"⟩ := by decide +kernel
  have hability : Address.ofText (europe.apiHost ++ "/data/wow/pet-ability/index") =
      .ok ⟨[], [], "eu.api.blizzard.com", "/data/wow/pet-ability/index"⟩ := by decide +kernel
  have hpets := Client.reaches_of_address hpet (by decide) (by decide +kernel)
  have habilities := Client.reaches_of_address hability (by decide) (by decide +kernel)
  have htoken : (replyTo goodReplies 0).GivesToken (symbols "t") :=
    (tokenOutcome_eq_ok_iff europe).1 (by decide +kernel)
  refine ⟨hpets, habilities, htoken, run_heeds hpets habilities fun token h => ?_⟩
  rw [h.unique htoken]
  rfl

example : (run europe goodReplies).1.toOption.map (fun catalog => catalog.pets.entries) =
    some [(symbols "1", symbols "Lion"), (symbols "2", symbols "Dog")] := by decide +kernel

example : (run europe goodReplies).1.toOption.map (fun catalog => catalog.abilities.entries) =
    some [([.half 0], symbols "Zap"), ([.half 1], symbols "Claw")] := by decide +kernel

end BattleScript.Download
