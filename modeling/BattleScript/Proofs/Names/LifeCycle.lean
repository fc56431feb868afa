import BattleScript.Proofs.Names.FirstFault

/-!
The life of a resolver under any calls. A resolver without a catalog is settled by the first call that
marks it, and from then on, as one that was made with a catalog, it never changes: further marks are
refused, and lookups are answered from what it holds. Until then lookups are refused, with the
exception that an aura may fail for the digits of its id first.
-/
namespace BattleScript.Names.Resolver
open Text

inductive Call where
  | markLoaded (catalog : Catalog)
  | markFailed
  | lookup (kind : NameKind) (id : Text)

inductive Reply where
  | settled
  | refused (e : AlreadySettled)
  | found (result : Except LookupError (Option Text))
deriving DecidableEq

def marked (r : Resolver) : Except AlreadySettled Resolver → Resolver × Reply
  | .ok r' => (r', .settled)
  | .error e => (r, .refused e)

def call (r : Resolver) : Call → Resolver × Reply
  | .markLoaded catalog => r.marked (r.markLoaded catalog)
  | .markFailed => r.marked r.markFailed
  | .lookup kind id => (r, .found (r.lookup kind id))

def after (r : Resolver) : List Call → Resolver
  | [] => r
  | c :: cs => after (r.call c).1 cs

def Call.IsMark : Call → Prop
  | .lookup _ _ => False
  | _ => True

def held? : Resolver → Option Catalog
  | loaded catalog => some catalog
  | _ => none

theorem call_of_not_isMark {c : Call} (h : ¬ c.IsMark) (r : Resolver) : (r.call c).1 = r := by
  cases c with
  | lookup kind id => rfl
  | _ => exact absurd trivial h

theorem call_mark_pending {c : Call} (h : c.IsMark) :
    (pending.call c).2 = .settled ∧ (pending.call c).1 ≠ pending := by
  cases c with
  | lookup kind id => exact absurd h not_false
  | _ => exact ⟨rfl, nofun⟩

theorem call_mark_of_settled {r : Resolver} (hr : r ≠ pending) {c : Call} (h : c.IsMark) :
    r.call c = (r, .refused ⟨r.stateWord⟩) := by
  cases r with
  | pending => exact absurd rfl hr
  | _ =>
    cases c with
    | lookup kind id => exact absurd h not_false
    | _ => rfl

theorem call_of_settled {r : Resolver} (hr : r ≠ pending) (c : Call) : (r.call c).1 = r := by
  by_cases h : c.IsMark
  · rw [call_mark_of_settled hr h]
  · exact call_of_not_isMark h r

theorem after_of_settled {r : Resolver} (hr : r ≠ pending) (cs : List Call) : r.after cs = r := by
  induction cs with
  | nil => rfl
  | cons c cs ih => rw [after, call_of_settled hr, ih]

theorem after_pending_eq_iff (cs : List Call) : pending.after cs = pending ↔ ∀ c ∈ cs, ¬ c.IsMark := by
  induction cs with
  | nil => simp [after]
  | cons c cs ih =>
    rw [List.forall_mem_cons, ← ih, after]
    by_cases h : c.IsMark
    · have hsettled := (call_mark_pending h).2
      simp [h, after_of_settled hsettled, hsettled]
    · simp [h, call_of_not_isMark h]

def Settles (initial : Option Catalog) (past : List Call) : Prop :=
  initial ≠ none ∨ ∃ c ∈ past, c.IsMark

theorem after_start_ne_pending_iff (initial : Option Catalog) (past : List Call) :
    (start initial).after past ≠ pending ↔ Settles initial past := by
  cases initial with
  | some catalog =>
    have hloaded : (start (some catalog)).after past = loaded catalog :=
      after_of_settled (r := loaded catalog) nofun past
    simp [hloaded, Settles]
  | none => simp [start, after_pending_eq_iff, Settles]

/-- What holds of a resolver `r` that was made with `initial` and has had the calls `past`. -/
structure LifeCycle (initial : Option Catalog) (past : List Call) (r : Resolver) : Prop where
  /-- It is loaded exactly if it holds a catalog, and otherwise pending or failed. -/
  holds : (r.stateWord = "loaded" ↔ ∃ catalog, r.held? = some catalog) ∧
    (r.held? = none → r.stateWord = "pending" ∨ r.stateWord = "failed")
  /-- The next call changes it exactly if it is the first mark. -/
  changes : ∀ c, (r.call c).1 ≠ r ↔ initial = none ∧ (∀ c' ∈ past, ¬ c'.IsMark) ∧ c.IsMark
  /-- That mark finds it pending and is accepted. -/
  first : initial = none → (∀ c ∈ past, ¬ c.IsMark) →
    r = pending ∧ (∀ catalog, r.call (.markLoaded catalog) = (loaded catalog, .settled)) ∧
      r.call .markFailed = (failed, .settled)
  /-- Every other mark is refused and changes nothing. -/
  refuses : Settles initial past → ∀ c, c.IsMark → r.call c = (r, .refused ⟨r.stateWord⟩)
  /-- A lookup changes nothing. -/
  looks : ∀ kind id, r.call (.lookup kind id) = (r, .found (r.lookup kind id))
  /-- Until it settles there are no answers. -/
  early : ¬ Settles initial past → ∀ id,
    r.lookup .ability id = .error .notLoaded ∧ r.lookup .pet id = .error .notLoaded ∧
      (isNumericId id = true → id.length ≤ Json.digitLimit →
        (ofNat (Json.decimalValue id + 1)).length ≤ Json.digitLimit →
        r.lookup .aura id = .error .notLoaded)
  /-- Afterwards the same lookup has the same answer, whatever is asked in between. -/
  late : Settles initial past → ∀ more, r.after more = r ∧
    ∀ kind id, ((r.after more).call (.lookup kind id)).2 = (r.call (.lookup kind id)).2
  /-- Without a catalog there are no names; only the digits of an aura can still be an error. -/
  empty : r = failed → ∀ kind id, r.lookup kind id = .ok none ∨
    kind = .aura ∧ isNumericId id = true ∧
      (r.lookup kind id = .error (.idTooLong id.length) ∧ Json.digitLimit < id.length ∨
        r.lookup kind id = .error .successorTooLong ∧
          Json.digitLimit < (ofNat (Json.decimalValue id + 1)).length)

theorem stateWord_held? (r : Resolver) :
    (r.stateWord = "loaded" ↔ ∃ catalog, r.held? = some catalog) ∧
      (r.held? = none → r.stateWord = "pending" ∨ r.stateWord = "failed") := by
  cases r with
  | pending => exact ⟨⟨fun h => absurd h (by decide), nofun⟩, fun _ => .inl rfl⟩
  | failed => exact ⟨⟨fun h => absurd h (by decide), nofun⟩, fun _ => .inr rfl⟩
  | loaded catalog => exact ⟨⟨fun _ => ⟨catalog, rfl⟩, fun _ => rfl⟩, nofun⟩

theorem lookup_pending (id : Text) :
    pending.lookup .ability id = .error .notLoaded ∧ pending.lookup .pet id = .error .notLoaded ∧
      (isNumericId id = true → id.length ≤ Json.digitLimit →
        (ofNat (Json.decimalValue id + 1)).length ≤ Json.digitLimit →
        pending.lookup .aura id = .error .notLoaded) := by
  refine ⟨rfl, rfl, fun hid hlength hnext => ?_⟩
  have haura := errorOf_lookupAura hid pending
  rw [if_neg hlength.not_gt, if_neg hnext.not_gt, if_pos rfl] at haura
  exact errorOf_eq_some_iff.1 haura

theorem eq_none_of_lookup_failed {kind : NameKind} {id : Text} {name : Option Text}
    (h : failed.lookup kind id = .ok name) : name = none := by
  cases kind with
  | ability =>
    cases h
    rfl
  | pet =>
    cases h
    rfl
  | aura =>
    simp only [lookup, lookupAura] at h
    cases hnext : auraAbilityId id with
    | error e =>
      rw [hnext] at h
      cases h
    | ok next =>
      rw [hnext] at h
      cases next <;> cases h <;> rfl

theorem lookup_failed (kind : NameKind) (id : Text) :
    failed.lookup kind id = .ok none ∨ kind = .aura ∧ isNumericId id = true ∧
      (failed.lookup kind id = .error (.idTooLong id.length) ∧ Json.digitLimit < id.length ∨
        failed.lookup kind id = .error .successorTooLong ∧
          Json.digitLimit < (ofNat (Json.decimalValue id + 1)).length) := by
  cases hlookup : failed.lookup kind id with
  | ok name =>
    rw [eq_none_of_lookup_failed hlookup]
    exact .inl rfl
  | error e =>
    right
    have haura : kind = .aura := by
      cases kind with
      | aura => rfl
      | _ => cases hlookup
    subst haura
    have hid : isNumericId id = true := by
      by_contra hid
      have hnone : failed.lookup .aura id = .ok none := by
        rw [lookup, lookupAura, auraAbilityId, Bool.of_not_eq_true hid]
        rfl
      cases hlookup.symm.trans hnone
    have hfailed : failed ≠ pending := by
      intro h
      cases h
    have hfault : errorOf (failed.lookup .aura id) = _ := errorOf_lookupAura hid failed
    rw [errorOf_eq_some_iff.2 hlookup, if_neg hfailed] at hfault
    refine ⟨rfl, hid, ?_⟩
    split_ifs at hfault with hlong hnext <;> cases hfault
    · exact .inl ⟨rfl, hlong⟩
    · exact .inr ⟨rfl, hnext⟩

theorem lifeCycle_after (initial : Option Catalog) (past : List Call) :
    LifeCycle initial past ((start initial).after past) := by
  have hsettled := after_start_ne_pending_iff initial past
  have hunmarked : ¬ Settles initial past ↔ initial = none ∧ ∀ c ∈ past, ¬ c.IsMark := by
    simp [Settles]
  have hpending : ¬ Settles initial past → (start initial).after past = pending :=
    fun h => not_not.1 (mt hsettled.1 h)
  constructor
  case holds => exact stateWord_held? _
  case changes =>
    intro c
    rw [← and_assoc, ← hunmarked]
    by_cases h : Settles initial past
    · simp [h, call_of_settled (hsettled.2 h)]
    · rw [hpending h]
      by_cases hc : c.IsMark
      · simp [h, hc, (call_mark_pending hc).2]
      · simp [hc, call_of_not_isMark hc]
  case first =>
    intro hinitial hpast
    rw [hpending (hunmarked.2 ⟨hinitial, hpast⟩)]
    exact ⟨rfl, fun _ => rfl, rfl⟩
  case refuses => exact fun h c hc => call_mark_of_settled (hsettled.2 h) hc
  case looks => exact fun _ _ => rfl
  case early =>
    intro h id
    rw [hpending h]
    exact lookup_pending id
  case late =>
    intro h more
    rw [after_of_settled (hsettled.2 h)]
    exact ⟨rfl, fun _ _ => rfl⟩
  case empty =>
    intro h kind id
    rw [h]
    exact lookup_failed kind id

theorem lifeCycle_after_late :
    let past : List Call := [.lookup .ability "595", .markFailed]
    let late : Call := .markLoaded ⟨NameMap.ofList [("595", "Moonfire")], NameMap.empty⟩
    let r := (start none).after past
    Settles none past ∧ r.call late = (r, .refused ⟨"failed"⟩) ∧
      (r.after [late]).lookup .ability "595" = .ok none := by
  intro past late r
  have hlife : LifeCycle none past r := lifeCycle_after none past
  have hsettles : Settles none past := .inr ⟨.markFailed, by simp [past], trivial⟩
  refine ⟨hsettles, hlife.refuses hsettles late trivial, ?_⟩
  rw [(hlife.late hsettles [late]).1]
  rfl

/-- The last id within the limit is an error of its own, before there is a catalog. -/
theorem lookup_last_id :
    let id : Text := List.replicate Json.digitLimit '9'
    isNumericId id = true ∧ id.length ≤ Json.digitLimit ∧
      (start none).lookup .aura id = .error .successorTooLong ∧
      (start none).lookup .aura id ≠ .error .notLoaded := by
  intro id
  have hid : isNumericId id = true := isNumericId_nines (by decide)
  have hlength : id.length = Json.digitLimit := List.length_replicate
  have haura := errorOf_lookupAura hid pending
  rw [if_neg (by rw [hlength]; exact lt_irrefl _), if_pos length_after_nines] at haura
  have hlookup : (start none).lookup .aura id = .error .successorTooLong := errorOf_eq_some_iff.1 haura
  exact ⟨hid, hlength.le, hlookup, by rw [hlookup]; exact nofun⟩

end BattleScript.Names.Resolver
