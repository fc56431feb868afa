import Mathlib.Data.List.Induction
import Mathlib.Data.List.Nodup
import Mathlib.Tactic.SplitIfs
import BattleScript.Names.Deferred

/-!
One load for all requests. Whatever the order in which requests are made, cancelled and answered while
the load begins and ends, the load is begun once, requests wait until it has ended, and their answers
are those of a resolver with the catalog it ended with. A request that is cancelled leaves no trace in
the load or in the answers to others.
-/
namespace BattleScript.Names

def Outcome.resolver : Outcome → Resolver
  | .ok catalog => .loaded catalog
  | .error _ => .failed

def Outcome.catalog : Outcome → Catalog
  | .ok catalog => catalog
  | .error _ => Catalog.empty

theorem Outcome.resolver_ne_pending (o : Outcome) : o.resolver ≠ .pending := by
  cases o <;> exact nofun

theorem Outcome.lookup_resolver (o : Outcome) (kind : NameKind) (id : Text) :
    o.resolver.lookup kind id = (Resolver.loaded o.catalog).lookup kind id := by
  cases o <;> cases kind <;> rfl

theorem Resolver.lookup_loaded_ne_notLoaded (c : Catalog) (kind : NameKind) (id : Text) :
    (Resolver.loaded c).lookup kind id ≠ .error .notLoaded := by
  cases kind with
  | ability => exact nofun
  | pet => exact nofun
  | aura =>
    intro h
    simp only [Resolver.lookup, Resolver.lookupAura] at h
    cases hid : auraAbilityId id with
    | error e =>
      rw [hid] at h
      cases h
      unfold auraAbilityId at hid
      dsimp only at hid
      split_ifs at hid <;> cases hid
    | ok next =>
      rw [hid] at h
      cases next <;> cases h

def Event.request? : Event → Option (Nat × Request)
  | .request ticket r => some (ticket, r)
  | _ => none

def requests (es : List Event) : List (Nat × Request) :=
  es.filterMap Event.request?

def OwnTickets (es : List Event) : Prop :=
  ((requests es).map Prod.fst).Nodup

def LoadHadTurn (es : List Event) : Prop :=
  ∃ before behind, es = before ++ .loadBegins :: behind ∧ requests before ≠ []

theorem requests_snoc (es : List Event) (e : Event) :
    requests (es ++ [e]) = requests es ++ e.request?.toList := by
  rw [requests, List.filterMap_append]
  cases e <;> rfl

theorem requests_snoc_of_none {e : Event} (h : e.request? = none) (es : List Event) :
    requests (es ++ [e]) = requests es := by
  rw [requests_snoc, h]
  exact List.append_nil _

theorem OwnTickets.init {es : List Event} {e : Event} (h : OwnTickets (es ++ [e])) :
    OwnTickets es := by
  rw [OwnTickets, requests_snoc, List.map_append] at h
  exact List.Nodup.of_append_left h

theorem OwnTickets.eq {es : List Event} (h : OwnTickets es) {ticket : Nat} {r r' : Request}
    (hr : (ticket, r) ∈ requests es) (hr' : (ticket, r') ∈ requests es) : r = r' :=
  congrArg Prod.snd (List.inj_on_of_nodup_map h hr hr' rfl)

theorem not_loadHadTurn {es : List Event} (h : requests es = []) : ¬ LoadHadTurn es := by
  rintro ⟨before, behind, rfl, hbefore⟩
  rw [requests, List.filterMap_append] at h
  exact hbefore (List.append_eq_nil_iff.1 h).1

theorem loadHadTurn_snoc {es : List Event} {e : Event} :
    LoadHadTurn (es ++ [e]) ↔ LoadHadTurn es ∨ e = .loadBegins ∧ requests es ≠ [] := by
  constructor
  · rintro ⟨before, behind, hes, hbefore⟩
    rcases List.eq_nil_or_concat behind with rfl | ⟨behind, last, rfl⟩
    · obtain ⟨rfl, hlast⟩ := List.append_inj' hes rfl
      cases hlast
      exact .inr ⟨rfl, hbefore⟩
    · rw [List.concat_eq_append, ← List.cons_append, ← List.append_assoc] at hes
      obtain ⟨rfl, -⟩ := List.append_inj' hes rfl
      exact .inl ⟨before, behind, rfl, hbefore⟩
  · rintro (⟨before, behind, rfl, hbefore⟩ | ⟨rfl, hes⟩)
    · exact ⟨before, behind ++ [e], by rw [List.append_assoc, List.cons_append], hbefore⟩
    · exact ⟨es, [], rfl, hes⟩

namespace Deferred

theorem run_append (d : Deferred) (as bs : List Event) : d.run (as ++ bs) = (d.run as).run bs := by
  induction as generalizing d with
  | nil => rfl
  | cons e as ih => exact ih (d.step e)

theorem run_induction {P : List Event → Deferred → Prop} (hstart : P [] start)
    (hstep : ∀ past d e, P past d → P (past ++ [e]) (d.step e)) (es : List Event) :
    P es (start.run es) := by
  have key : ∀ (es past : List Event) (d : Deferred), P past d → P (past ++ es) (d.run es) := by
    intro es
    induction es with
    | nil =>
      intro past d h
      rwa [List.append_nil]
    | cons e es ih =>
      intro past d h
      have hnext := ih (past ++ [e]) (d.step e) (hstep past d e h)
      rwa [List.append_assoc] at hnext
  exact key es [] start hstart

theorem step_answer_cases (d : Deferred) (ticket : Nat) :
    d.step (.answer ticket) = d ∨
      ∃ r a, d.waiting.lookup ticket = some r ∧ d.resume? r = some a ∧
        d.step (.answer ticket) =
          { d with
            waiting := d.waiting.filter fun w => w.1 ≠ ticket
            answers := d.answers ++ [(ticket, a)] } := by
  rw [step]
  split
  · rename_i a ha
    obtain ⟨r, hr, hresume⟩ := Option.bind_eq_some_iff.1 ha
    exact .inr ⟨r, a, hr, hresume, rfl⟩
  · exact .inl rfl

theorem step_cancel (d : Deferred) (ticket : Nat) :
    d.step (.cancel ticket) = { d with waiting := d.waiting.filter fun w => w.1 ≠ ticket } := by
  have hload : (if (d.waiting.lookup ticket).isSome then d.load.afterCancel awaited else d.load) = d.load :=
    ite_self d.load
  rw [step, hload]

/-- What is known of the load, of how often it was begun and of the resolver after a history. -/
inductive Phase (past : List Event) : Load → Nat → Resolver → Prop where
  | idle : requests past = [] → Phase past .idle 0 .pending
  | scheduled : requests past ≠ [] → ¬ LoadHadTurn past → Phase past .scheduled 0 .pending
  | running : LoadHadTurn past → Phase past .running 1 .pending
  | done (o : Outcome) : LoadHadTurn past → Phase past .done 1 o.resolver

section Phases
variable {past : List Event} {load : Load} {loads : Nat} {resolver : Resolver} {e : Event}

theorem loadHadTurn_snoc_of_ne (he : e ≠ .loadBegins) :
    LoadHadTurn (past ++ [e]) ↔ LoadHadTurn past := by
  rw [loadHadTurn_snoc]
  simp only [he, false_and, or_false]

theorem Phase.request (h : Phase past load loads resolver) (ticket : Nat) (r : Request) :
    Phase (past ++ [.request ticket r]) (if load = .idle then .scheduled else load) loads resolver := by
  have hturn : LoadHadTurn (past ++ [.request ticket r]) ↔ LoadHadTurn past :=
    loadHadTurn_snoc_of_ne nofun
  have hasked : requests (past ++ [.request ticket r]) ≠ [] := by
    rw [requests_snoc]
    exact List.append_ne_nil_of_right_ne_nil _ nofun
  cases h with
  | idle hnone => exact .scheduled hasked (mt hturn.1 (not_loadHadTurn hnone))
  | scheduled _ hnot => exact .scheduled hasked (mt hturn.1 hnot)
  | running hbegun => exact .running (hturn.2 hbegun)
  | done o hbegun => exact .done o (hturn.2 hbegun)

theorem Phase.loadBegins (h : Phase past load loads resolver) :
    Phase (past ++ [.loadBegins]) (if load = .scheduled then .running else load)
      (if load = .scheduled then loads + 1 else loads) resolver := by
  have hrequests : requests (past ++ [.loadBegins]) = requests past := requests_snoc_of_none rfl past
  cases h with
  | idle hnone => exact .idle (hrequests.trans hnone)
  | scheduled hasked _ => exact .running (loadHadTurn_snoc.2 (.inr ⟨rfl, hasked⟩))
  | running hbegun => exact .running (loadHadTurn_snoc.2 (.inl hbegun))
  | done o hbegun => exact .done o (loadHadTurn_snoc.2 (.inl hbegun))

theorem Phase.keep (h : Phase past load loads resolver) (hrequest : e.request? = none)
    (hbegins : e ≠ .loadBegins) : Phase (past ++ [e]) load loads resolver := by
  have hturn : LoadHadTurn (past ++ [e]) ↔ LoadHadTurn past := loadHadTurn_snoc_of_ne hbegins
  have hrequests : requests (past ++ [e]) = requests past := requests_snoc_of_none hrequest past
  cases h with
  | idle hnone => exact .idle (hrequests.trans hnone)
  | scheduled hasked hnot => exact .scheduled (hrequests ▸ hasked) (mt hturn.1 hnot)
  | running hbegun => exact .running (hturn.2 hbegun)
  | done o hbegun => exact .done o (hturn.2 hbegun)

theorem Phase.loadEnds (h : Phase past .running loads resolver) (o : Outcome) :
    Phase (past ++ [.loadEnds o]) .done loads o.resolver := by
  have hturn : LoadHadTurn (past ++ [.loadEnds o]) ↔ LoadHadTurn past := loadHadTurn_snoc_of_ne nofun
  cases h with
  | running hbegun => exact .done o (hturn.2 hbegun)

end Phases

theorem settleWith_eq {d : Deferred} (h : d.resolver = .pending) (o : Outcome) :
    (d.settleWith o).load = .done ∧ (d.settleWith o).loads = d.loads ∧
      (d.settleWith o).resolver = o.resolver := by
  cases o <;> simp only [settleWith, h] <;> exact ⟨rfl, rfl, rfl⟩

theorem Phase.pending_of_running {past : List Event} {loads : Nat} {resolver : Resolver}
    (h : Phase past .running loads resolver) : resolver = .pending := by
  cases h
  rfl

theorem marked_eq (d : Deferred) (r : Except Resolver.AlreadySettled Resolver) :
    (d.marked r).waiting = d.waiting ∧ (d.marked r).answers = d.answers := by
  cases r <;> exact ⟨rfl, rfl⟩

theorem waiting_settleWith (d : Deferred) (o : Outcome) : (d.settleWith o).waiting = d.waiting := by
  cases o <;> exact (marked_eq _ _).1

theorem answers_settleWith (d : Deferred) (o : Outcome) : (d.settleWith o).answers = d.answers := by
  cases o <;> exact (marked_eq _ _).2

theorem Phase.step {past : List Event} {d : Deferred} (h : Phase past d.load d.loads d.resolver)
    (e : Event) : Phase (past ++ [e]) (d.step e).load (d.step e).loads (d.step e).resolver := by
  cases e with
  | request ticket r => exact h.request ticket r
  | loadBegins =>
    have hnext := h.loadBegins
    simp only [Deferred.step]
    split_ifs at hnext ⊢ <;> exact hnext
  | loadEnds o =>
    simp only [Deferred.step]
    split_ifs with hload
    · rw [hload] at h
      obtain ⟨hdone, hloads, hresolver⟩ := settleWith_eq h.pending_of_running o
      rw [hdone, hloads, hresolver]
      exact h.loadEnds o
    · exact h.keep rfl nofun
  | answer ticket =>
    have hkeep := h.keep (e := .answer ticket) rfl nofun
    obtain hstep | ⟨r, a, -, -, hstep⟩ := step_answer_cases d ticket <;> rw [hstep] <;> exact hkeep
  | cancel ticket =>
    rw [step_cancel]
    exact h.keep rfl nofun

theorem phase_run (es : List Event) :
    Phase es (start.run es).load (start.run es).loads (start.run es).resolver :=
  run_induction (P := fun past d => Phase past d.load d.loads d.resolver) (.idle rfl)
    (fun _ _ e h => h.step e) es

theorem step_of_done {d : Deferred} (h : d.load = .done) (e : Event) :
    (d.step e).load = .done ∧ (d.step e).resolver = d.resolver := by
  cases e with
  | request ticket r =>
    simp only [Deferred.step, h]
    exact ⟨rfl, trivial⟩
  | loadBegins =>
    rw [Deferred.step, if_neg (h ▸ nofun)]
    exact ⟨h, rfl⟩
  | loadEnds o =>
    rw [Deferred.step, if_neg (h ▸ nofun)]
    exact ⟨h, rfl⟩
  | answer ticket =>
    obtain hstep | ⟨r, a, -, -, hstep⟩ := step_answer_cases d ticket <;> rw [hstep] <;> exact ⟨h, rfl⟩
  | cancel ticket =>
    rw [step_cancel]
    exact ⟨h, rfl⟩

theorem run_of_done {d : Deferred} (h : d.load = .done) (es : List Event) :
    (d.run es).load = .done ∧ (d.run es).resolver = d.resolver := by
  induction es generalizing d with
  | nil => exact ⟨h, rfl⟩
  | cons e es ih =>
    obtain ⟨hload, hresolver⟩ := step_of_done h e
    obtain ⟨hload', hresolver'⟩ := ih hload
    exact ⟨hload', hresolver'.trans hresolver⟩

theorem step_done_cases {past : List Event} {d : Deferred} (hphase : Phase past d.load d.loads d.resolver)
    {e : Event} (h : (d.step e).load = .done) :
    d.load = .done ∨ ∃ o, e = .loadEnds o ∧ d.load = .running ∧ (d.step e).resolver = o.resolver := by
  cases e with
  | request ticket r =>
    simp only [Deferred.step] at h
    split_ifs at h with hidle
    exact .inl h
  | loadBegins =>
    simp only [Deferred.step] at h
    split_ifs at h with hscheduled
    exact .inl h
  | loadEnds o =>
    by_cases hload : d.load = .running
    · rw [Deferred.step, if_pos hload]
      rw [hload] at hphase
      exact .inr ⟨o, rfl, hload, (settleWith_eq hphase.pending_of_running o).2.2⟩
    · rw [Deferred.step, if_neg hload] at h
      exact .inl h
  | answer ticket =>
    obtain hstep | ⟨r, a, -, -, hstep⟩ := step_answer_cases d ticket <;> rw [hstep] at h <;> exact .inl h
  | cancel ticket =>
    rw [step_cancel] at h
    exact .inl h

def EndedWith (es : List Event) (o : Outcome) : Prop :=
  ∃ before behind, es = before ++ .loadEnds o :: behind ∧ (start.run before).load = .running

theorem endedWith_run {es : List Event} (h : (start.run es).load = .done) :
    ∃ o, EndedWith es o ∧ (start.run es).resolver = o.resolver := by
  induction es using List.reverseRecOn with
  | nil => cases h
  | append_singleton es e ih =>
    rw [run_append] at h ⊢
    obtain hdone | ⟨o, rfl, hrunning, hresolver⟩ := step_done_cases (phase_run es) h
    · obtain ⟨o, ⟨before, behind, hes, hrunning⟩, hresolver⟩ := ih hdone
      refine ⟨o, ⟨before, behind ++ [e], ?_, hrunning⟩, (step_of_done hdone e).2.trans hresolver⟩
      rw [← List.cons_append, ← List.append_assoc, ← hes]
    · exact ⟨o, ⟨es, [], rfl, hrunning⟩, hresolver⟩

theorem EndedWith.run_eq {es : List Event} {o : Outcome} (h : EndedWith es o) :
    (start.run es).load = .done ∧ (start.run es).resolver = o.resolver := by
  obtain ⟨before, behind, rfl, hrunning⟩ := h
  have hstep : (start.run before).step (.loadEnds o) = (start.run before).settleWith o := if_pos hrunning
  have hphase := phase_run before
  rw [hrunning] at hphase
  obtain ⟨hdone, -, hresolver⟩ := settleWith_eq hphase.pending_of_running o
  rw [run_append, run, hstep]
  obtain ⟨hload, hkept⟩ := run_of_done hdone behind
  exact ⟨hload, hkept.trans hresolver⟩

def tickets (d : Deferred) : List Nat :=
  d.answers.map Prod.fst ++ d.waiting.map Prod.fst

/-- Requests wait until they are cancelled or answered, and none is answered before the load has ended. -/
structure Served (past : List Event) (d : Deferred) : Prop where
  early : d.load ≠ .done → d.answers = []
  asked : ∀ w ∈ d.waiting, w ∈ requests past
  answered : ∀ p ∈ d.answers, ∃ r, (p.1, r) ∈ requests past ∧ p.2 = answerOf d.resolver r
  distinct : d.tickets.Nodup
  kept : ∀ ticket r, (ticket, r) ∈ requests past → .cancel ticket ∉ past →
    (ticket, r) ∈ d.waiting ∨ (ticket, answerOf d.resolver r) ∈ d.answers

section Requests
variable {past : List Event} {d : Deferred}

theorem Served.mem_of_mem_tickets (h : Served past d) {ticket : Nat} (ht : ticket ∈ d.tickets) :
    ticket ∈ (requests past).map Prod.fst := by
  rcases List.mem_append.1 ht with hanswer | hwait
  · obtain ⟨p, hp, rfl⟩ := List.mem_map.1 hanswer
    obtain ⟨r, hr, -⟩ := h.answered p hp
    exact List.mem_map.2 ⟨_, hr, rfl⟩
  · obtain ⟨w, hw, rfl⟩ := List.mem_map.1 hwait
    exact List.mem_map.2 ⟨w, h.asked w hw, rfl⟩

theorem mem_requests_snoc {e : Event} {w : Nat × Request} (hw : w ∈ requests past) :
    w ∈ requests (past ++ [e]) := by
  rw [requests_snoc]
  exact List.mem_append_left _ hw

theorem Served.request (h : Served past d) {ticket : Nat} {r : Request}
    (htickets : OwnTickets (past ++ [.request ticket r])) :
    Served (past ++ [.request ticket r]) (d.step (.request ticket r)) := by
  have hrequests : requests (past ++ [.request ticket r]) = requests past ++ [(ticket, r)] :=
    requests_snoc past _
  have hnew : ∀ old ∈ d.tickets, old ≠ ticket := by
    intro old hold
    rw [OwnTickets, hrequests, List.map_append, List.nodup_append] at htickets
    exact htickets.2.2 old (h.mem_of_mem_tickets hold) ticket (.head _)
  refine ⟨fun hload => h.early fun hdone => hload ?_, fun w hw => ?_, fun p hp => ?_, ?_,
    fun ticket' r' hr' hcancel => ?_⟩
  · simp only [Deferred.step, hdone]
    rfl
  · rcases List.mem_append.1 hw with hw | hw
    · exact mem_requests_snoc (h.asked w hw)
    · rw [hrequests]
      exact List.mem_append_right _ hw
  · obtain ⟨r', hr', hanswer⟩ := h.answered p hp
    exact ⟨r', mem_requests_snoc hr', hanswer⟩
  · have hall : (d.step (.request ticket r)).tickets = d.tickets ++ [ticket] := by
      simp only [tickets, Deferred.step, List.map_append, List.append_assoc]
      rfl
    rw [hall, List.nodup_append]
    refine ⟨h.distinct, List.nodup_singleton _, fun old hold new hnew' => ?_⟩
    rw [List.mem_singleton.1 hnew']
    exact hnew old hold
  · rw [hrequests] at hr'
    rcases List.mem_append.1 hr' with hr' | hr'
    · have hnot : .cancel ticket' ∉ past := mt (List.mem_append_left _) hcancel
      exact (h.kept ticket' r' hr' hnot).imp_left (List.mem_append_left _)
    · exact .inl (List.mem_append_right _ hr')

theorem Served.progress (h : Served past d) {e : Event} {d' : Deferred} (hrequest : e.request? = none)
    (hload : d'.load ≠ .done → d.load ≠ .done) (hresolver : d.load = .done → d'.resolver = d.resolver)
    (hwaiting : d'.waiting = d.waiting) (hanswers : d'.answers = d.answers) :
    Served (past ++ [e]) d' := by
  have hrequests : requests (past ++ [e]) = requests past := requests_snoc_of_none hrequest past
  -- A resolver that is only now settled contradicts no answer, as none has been given.
  have hsame : d.answers = [] ∨ d'.resolver = d.resolver := by
    by_cases hdone : d.load = .done
    · exact .inr (hresolver hdone)
    · exact .inl (h.early hdone)
  refine ⟨fun hd' => hanswers.trans (h.early (hload hd')), ?_, fun p hp => ?_, ?_,
    fun ticket r hr hcancel => ?_⟩
  · rw [hwaiting, hrequests]
    exact h.asked
  · rw [hanswers] at hp
    rcases hsame with hnone | hsame
    · rw [hnone] at hp
      cases hp
    · rw [hrequests, hsame]
      exact h.answered p hp
  · rw [tickets, hwaiting, hanswers]
    exact h.distinct
  · rw [hrequests] at hr
    rw [hwaiting, hanswers]
    have hkept := h.kept ticket r hr (mt (List.mem_append_left _) hcancel)
    rcases hsame with hnone | hsame
    · rw [hnone] at hkept ⊢
      exact hkept.imp_right nofun
    · rwa [hsame]

theorem Served.cancel (h : Served past d) (ticket : Nat) :
    Served (past ++ [.cancel ticket]) (d.step (.cancel ticket)) := by
  rw [step_cancel]
  have hrequests : requests (past ++ [.cancel ticket]) = requests past := requests_snoc_of_none rfl past
  refine ⟨h.early, fun w hw => ?_, ?_, ?_, fun ticket' r hr hcancel => ?_⟩
  · rw [hrequests]
    exact h.asked w (List.mem_of_mem_filter hw)
  · rw [hrequests]
    exact h.answered
  · have hfewer : ((d.waiting.filter fun w => w.1 ≠ ticket).map Prod.fst).Sublist
        (d.waiting.map Prod.fst) := List.filter_sublist.map _
    exact (hfewer.append_left _).nodup h.distinct
  · rw [hrequests] at hr
    obtain ⟨hnot, hne⟩ : .cancel ticket' ∉ past ∧ ticket' ≠ ticket := by
      rw [List.mem_append, not_or, List.mem_singleton, Event.cancel.injEq] at hcancel
      exact hcancel
    refine (h.kept ticket' r hr hnot).imp_left fun hwait => ?_
    exact List.mem_filter.2 ⟨hwait, decide_eq_true hne⟩

theorem mem_of_lookup {ws : List (Nat × Request)} {ticket : Nat} {r : Request}
    (h : ws.lookup ticket = some r) : (ticket, r) ∈ ws := by
  obtain ⟨before, behind, rfl, -⟩ := List.lookup_eq_some_iff.1 h
  exact List.mem_append_right _ (.head _)

theorem Phase.resume {r : Request} {a : Answer} (h : Phase past d.load d.loads d.resolver)
    (ha : d.resume? r = some a) : d.load = .done ∧ a = answerOf d.resolver r := by
  obtain ⟨load, resolver, loads, waiting, answers, log⟩ := d
  cases h with
  | done o _ => exact ⟨rfl, (Option.some.inj ha).symm⟩
  | _ => cases ha

theorem Served.answer (h : Served past d) (hphase : Phase past d.load d.loads d.resolver)
    (htickets : OwnTickets past) (ticket : Nat) :
    Served (past ++ [.answer ticket]) (d.step (.answer ticket)) := by
  have hrequests : requests (past ++ [.answer ticket]) = requests past := requests_snoc_of_none rfl past
  obtain hstep | ⟨r, a, hr, ha, hstep⟩ := step_answer_cases d ticket
  · rw [hstep]
    exact h.progress rfl id (fun _ => rfl) rfl rfl
  obtain ⟨hload, rfl⟩ := hphase.resume ha
  have hwait : (ticket, r) ∈ d.waiting := mem_of_lookup hr
  rw [hstep]
  refine ⟨fun hnot => absurd hload hnot, fun w hw => ?_, fun p hp => ?_, ?_,
    fun ticket' r' hr' hcancel => ?_⟩
  · rw [hrequests]
    exact h.asked w (List.mem_of_mem_filter hw)
  · rw [hrequests]
    rcases List.mem_append.1 hp with hp | hp
    · exact h.answered p hp
    · rw [List.mem_singleton.1 hp]
      exact ⟨r, h.asked _ hwait, rfl⟩
  · obtain ⟨hanswers, hwaiting, hapart⟩ := List.nodup_append.1 h.distinct
    have hlast : ∀ old ∈ d.answers.map Prod.fst, old ≠ ticket := fun old hold =>
      hapart old hold ticket (List.mem_map.2 ⟨_, hwait, rfl⟩)
    have hfewer : ((d.waiting.filter fun w => w.1 ≠ ticket).map Prod.fst).Sublist
        (d.waiting.map Prod.fst) := List.filter_sublist.map _
    rw [tickets, List.map_append, List.append_assoc, List.nodup_append]
    refine ⟨hanswers, List.nodup_cons.2 ⟨fun hagain => ?_, hfewer.nodup hwaiting⟩, ?_⟩
    · obtain ⟨w, hw, hsame⟩ := List.mem_map.1 hagain
      exact of_decide_eq_true (List.mem_filter.1 hw).2 hsame
    · intro old hold new hnew
      rcases List.mem_cons.1 hnew with rfl | hnew
      · exact hlast old hold
      · exact hapart old hold new (hfewer.subset hnew)
  · rw [hrequests] at hr'
    have hnot : .cancel ticket' ∉ past := mt (List.mem_append_left _) hcancel
    rcases h.kept ticket' r' hr' hnot with hwait' | hanswer
    · by_cases hticket : ticket' = ticket
      · subst hticket
        rw [htickets.eq (h.asked _ hwait') (h.asked _ hwait)]
        exact .inr (List.mem_append_right _ (.head _))
      · exact .inl (List.mem_filter.2 ⟨hwait', decide_eq_true hticket⟩)
    · exact .inr (List.mem_append_left _ hanswer)

theorem Served.step (h : Served past d) (hphase : Phase past d.load d.loads d.resolver) {e : Event}
    (htickets : OwnTickets (past ++ [e])) : Served (past ++ [e]) (d.step e) := by
  cases e with
  | request ticket r => exact h.request htickets
  | loadBegins =>
    simp only [Deferred.step]
    split_ifs with hload
    · exact h.progress rfl (fun _ hdone => nomatch hload.symm.trans hdone) (fun _ => rfl) rfl rfl
    · exact h.progress rfl id (fun _ => rfl) rfl rfl
  | loadEnds o =>
    simp only [Deferred.step]
    split_ifs with hload
    · refine h.progress rfl (fun _ hdone => nomatch hload.symm.trans hdone)
        (fun hdone => nomatch hload.symm.trans hdone) ?_ ?_
      · rw [waiting_settleWith]
      · rw [answers_settleWith]
    · exact h.progress rfl id (fun _ => rfl) rfl rfl
  | answer ticket => exact h.answer hphase htickets.init ticket
  | cancel ticket => exact h.cancel ticket

end Requests

theorem served_run {es : List Event} (htickets : OwnTickets es) : Served es (start.run es) := by
  have key := run_induction
    (P := fun past d => Phase past d.load d.loads d.resolver ∧ (OwnTickets past → Served past d))
    ⟨.idle rfl, fun _ => ⟨fun _ => rfl, nofun, nofun, List.nodup_nil, nofun⟩⟩
    (fun past d e h => ⟨h.1.step e, fun hown => (h.2 hown.init).step h.1 hown⟩) es
  exact key.2 htickets

def without (ticket : Nat) (d : Deferred) : Deferred :=
  { d with
    waiting := d.waiting.filter fun w => w.1 ≠ ticket
    answers := d.answers.filter fun p => p.1 ≠ ticket }

section OneTicket
variable {ticket : Nat}

theorem filter_ne_comm {α : Type} (other : Nat) (ps : List (Nat × α)) :
    (ps.filter fun p => p.1 ≠ ticket).filter (fun p => p.1 ≠ other) =
      (ps.filter fun p => p.1 ≠ other).filter fun p => p.1 ≠ ticket := by
  rw [List.filter_filter, List.filter_filter]
  simp only [Bool.and_comm]

theorem filter_ne_idem {α : Type} (ps : List (Nat × α)) :
    (ps.filter fun p => p.1 ≠ ticket).filter (fun p => p.1 ≠ ticket) =
      ps.filter fun p => p.1 ≠ ticket := by
  rw [List.filter_filter]
  simp only [Bool.and_self]

theorem lookup_filter_ne {other : Nat} (h : other ≠ ticket) (ws : List (Nat × Request)) :
    (ws.filter fun w => w.1 ≠ ticket).lookup other = ws.lookup other := by
  induction ws with
  | nil => rfl
  | cons w ws ih =>
    by_cases hw : w.1 = ticket
    · have hfirst : (other == w.1) = false := by rw [hw, beq_eq_false_iff_ne]; exact h
      rw [List.filter_cons_of_neg (by simpa using hw), ih, List.lookup_cons, hfirst]
    · rw [List.filter_cons_of_pos (by simpa using hw), List.lookup_cons, List.lookup_cons, ih]

theorem without_without (d : Deferred) : (d.without ticket).without ticket = d.without ticket := by
  simp only [without, filter_ne_idem]

theorem without_cancel (d : Deferred) (ticket : Nat) :
    (d.step (.cancel ticket)).without ticket = d.without ticket := by
  simp only [without, step_cancel, filter_ne_idem]

theorem without_answer (d : Deferred) (ticket : Nat) :
    (d.step (.answer ticket)).without ticket = d.without ticket := by
  obtain hstep | ⟨r, a, -, -, hstep⟩ := step_answer_cases d ticket
  · rw [hstep]
  · have hnew : [(ticket, a)].filter (fun p => p.1 ≠ ticket) = [] :=
      List.filter_cons_of_neg (by simp)
    rw [hstep]
    simp only [without, filter_ne_idem, List.filter_append, hnew, List.append_nil]

theorem answer_without {other : Nat} (hother : other ≠ ticket) (d : Deferred) :
    (d.without ticket).step (.answer other) = (d.step (.answer other)).without ticket := by
  have hlookup : (d.without ticket).waiting.lookup other = d.waiting.lookup other :=
    lookup_filter_ne hother d.waiting
  have hresume : (d.without ticket).resume? = d.resume? := rfl
  rw [step, step, hlookup, hresume]
  cases (d.waiting.lookup other).bind d.resume? with
  | none => rfl
  | some a =>
    have hnew : [(other, a)].filter (fun p => p.1 ≠ ticket) = [(other, a)] :=
      List.filter_cons_of_pos (by simpa using hother)
    simp only [without, List.filter_append, hnew, filter_ne_comm other d.waiting]

theorem without_settleWith (d : Deferred) (o : Outcome) :
    (d.settleWith o).without ticket = (d.without ticket).settleWith o := by
  have hsame : (d.without ticket).resolver = d.resolver := rfl
  cases o with
  | ok c =>
    rw [settleWith, settleWith, hsame]
    cases d.resolver.markLoaded c <;> rfl
  | error message =>
    rw [settleWith, settleWith, hsame]
    cases d.resolver.markFailed <;> rfl

/-- An event does to the others what it would do if there were nothing of the one ticket. -/
theorem without_step (d : Deferred) (e : Event) :
    ((d.without ticket).step e).without ticket = (d.step e).without ticket := by
  have hsame : (d.without ticket).load = d.load := rfl
  cases e with
  | request other r =>
    simp only [without, Deferred.step, List.filter_append, filter_ne_idem]
    rfl
  | loadBegins =>
    by_cases hload : d.load = .scheduled
    · rw [Deferred.step, if_pos (hsame.trans hload), Deferred.step, if_pos hload]
      exact congrArg (fun u => { u with load := .running, loads := d.loads + 1 }) (without_without d)
    · rw [Deferred.step, if_neg (hsame ▸ hload), Deferred.step, if_neg hload, without_without]
  | loadEnds o =>
    by_cases hload : d.load = .running
    · rw [Deferred.step, if_pos (hsame.trans hload), Deferred.step, if_pos hload,
        without_settleWith, without_without, without_settleWith]
    · rw [Deferred.step, if_neg (hsame ▸ hload), Deferred.step, if_neg hload, without_without]
  | answer other =>
    by_cases hother : other = ticket
    · subst hother
      rw [without_answer, without_answer, without_without]
    · rw [answer_without hother, without_without]
  | cancel other =>
    simp only [without, step_cancel, filter_ne_comm other d.waiting, filter_ne_idem]

theorem without_run (d : Deferred) (es : List Event) :
    ((d.without ticket).run es).without ticket = (d.run es).without ticket := by
  induction es generalizing d with
  | nil => exact without_without d
  | cons e es ih =>
    -- The first step may bring the ticket back, so it is taken out once more before the rest runs.
    calc (((d.without ticket).step e).run es).without ticket
        = ((((d.without ticket).step e).without ticket).run es).without ticket := (ih _).symm
      _ = (((d.step e).without ticket).run es).without ticket := by rw [without_step]
      _ = ((d.step e).run es).without ticket := ih _

end OneTicket

/-- What a history `es` of requests and of the load comes to, when it leaves `d`. -/
structure OneLoad (es : List Event) (d : Deferred) : Prop where
  /-- The load is begun once at most, and exactly once when its turn has come after a request. -/
  once : d.loads ≤ 1 ∧ (d.loads = 1 ↔ LoadHadTurn es) ∧ (d.answers ≠ [] → d.loads = 1)
  /-- The task of the load is never cancelled, and never ends with an error. -/
  stands : d.load ≠ .cancelled ∧ ∀ e, d.load ≠ .broken e
  /-- There are no answers before the load has ended. -/
  waits : d.load ≠ .done → d.resolver = .pending ∧ d.answers = []
  /-- After that, the resolver is what the load has left behind, and each lookup that was answered got
  the answer of a resolver with the names found by the load. -/
  agrees : d.load = .done → ∃ o, EndedWith es o ∧ d.resolver = o.resolver ∧
    ∀ ticket kind id answer, (ticket, .lookup kind id) ∈ requests es → (ticket, answer) ∈ d.answers →
      answer = .name ((Resolver.loaded o.catalog).lookup kind id) ∧
        answer ≠ .name (.error .notLoaded)
  /-- No request is lost or answered twice, and one that still waits after the load is answered at
  its turn. -/
  served : (d.answers.map Prod.fst).Nodup ∧
    ∀ ticket r, (ticket, r) ∈ requests es → .cancel ticket ∉ es →
      (ticket, answerOf d.resolver r) ∈ d.answers ∨
        (ticket, r) ∈ d.waiting ∧ (d.load = .done →
          (ticket, answerOf d.resolver r) ∈ (d.step (.answer ticket)).answers)
  /-- The resolver moves once at most, by a move that it accepts. -/
  settles : ∀ before behind, es = before ++ behind →
    ((start.run before).resolver ≠ .pending → d.resolver = (start.run before).resolver) ∧
      ∀ o, (start.run before).load = .running →
        (start.run before).resolver.settle o.toOption =
          .ok ((start.run before).step (.loadEnds o)).resolver
  /-- A cancellation is not noticed by the load or by any other request. -/
  cancels : ∀ before ticket behind, es = before ++ .cancel ticket :: behind →
    d.without ticket = (start.run (before ++ behind)).without ticket

theorem Phase.loads_eq {es : List Event} {load : Load} {loads : Nat} {resolver : Resolver}
    (h : Phase es load loads resolver) : loads ≤ 1 ∧ (loads = 1 ↔ LoadHadTurn es) := by
  cases h with
  | idle hnone => exact ⟨Nat.zero_le 1, nofun, fun hturn => absurd hturn (not_loadHadTurn hnone)⟩
  | scheduled _ hnot => exact ⟨Nat.zero_le 1, nofun, fun hturn => absurd hturn hnot⟩
  | running hturn => exact ⟨Nat.le_refl 1, fun _ => hturn, fun _ => rfl⟩
  | done o hturn => exact ⟨Nat.le_refl 1, fun _ => hturn, fun _ => rfl⟩

theorem Phase.done_iff {es : List Event} {load : Load} {loads : Nat} {resolver : Resolver}
    (h : Phase es load loads resolver) : load = .done ↔ resolver ≠ .pending := by
  cases h with
  | done o _ => exact ⟨fun _ => o.resolver_ne_pending, fun _ => rfl⟩
  | _ => exact ⟨nofun, fun hsettled => absurd rfl hsettled⟩

theorem Phase.stands {es : List Event} {load : Load} {loads : Nat} {resolver : Resolver}
    (h : Phase es load loads resolver) : load ≠ .cancelled ∧ ∀ e, load ≠ .broken e := by
  cases h <;> exact ⟨nofun, nofun⟩

theorem Phase.loads_of_done {es : List Event} {loads : Nat} {resolver : Resolver}
    (h : Phase es .done loads resolver) : loads = 1 := by
  cases h
  rfl

theorem Served.answer_turn {es : List Event} {d : Deferred} (h : Served es d) (htickets : OwnTickets es)
    (hdone : d.load = .done) {ticket : Nat} {r : Request} (hwait : (ticket, r) ∈ d.waiting) :
    (ticket, answerOf d.resolver r) ∈ (d.step (.answer ticket)).answers := by
  cases hfound : d.waiting.lookup ticket with
  | none =>
    have hne := List.lookup_eq_none_iff.1 hfound _ hwait
    simp at hne
  | some r' =>
    have hr : r' = r := htickets.eq (h.asked _ (mem_of_lookup hfound)) (h.asked _ hwait)
    subst hr
    simp only [Deferred.step, hfound, Option.bind_some, resume?, hdone]
    exact List.mem_append_right _ (.head _)

theorem settle_of_running {es : List Event} {d : Deferred} (h : Phase es d.load d.loads d.resolver)
    (hrunning : d.load = .running) (o : Outcome) :
    d.resolver.settle o.toOption = .ok (d.step (.loadEnds o)).resolver := by
  rw [hrunning] at h
  have hpending := h.pending_of_running
  rw [Deferred.step, if_pos hrunning, (settleWith_eq hpending o).2.2, hpending]
  cases o <;> rfl

theorem oneLoad_run {es : List Event} (htickets : OwnTickets es) : OneLoad es (start.run es) := by
  have hphase : Phase es _ _ _ := phase_run es
  have hserved : Served es _ := served_run htickets
  constructor
  case once =>
    obtain ⟨honce, hturn⟩ := hphase.loads_eq
    refine ⟨honce, hturn, fun hanswers => ?_⟩
    have hdone : (start.run es).load = .done := not_imp_comm.1 hserved.early hanswers
    rw [hdone] at hphase
    exact hphase.loads_of_done
  case stands => exact hphase.stands
  case waits =>
    intro hload
    exact ⟨not_not.1 (mt hphase.done_iff.2 hload), hserved.early hload⟩
  case agrees =>
    intro hdone
    obtain ⟨o, hended, hresolver⟩ := endedWith_run hdone
    refine ⟨o, hended, hresolver, fun ticket kind id answer hr hanswer => ?_⟩
    obtain ⟨r, hr', heq⟩ := hserved.answered _ hanswer
    -- Tickets are not shared, so the request behind the answer is this one.
    have hsame : r = .lookup kind id := htickets.eq hr' hr
    have hanswer : answer = .name ((Resolver.loaded o.catalog).lookup kind id) := by
      rw [← o.lookup_resolver, ← hresolver]
      rw [hsame] at heq
      exact heq
    refine ⟨hanswer, fun hno => ?_⟩
    rw [hanswer] at hno
    exact Resolver.lookup_loaded_ne_notLoaded o.catalog kind id (Answer.name.inj hno)
  case served =>
    refine ⟨(List.nodup_append.1 hserved.distinct).1, fun ticket r hr hcancel => ?_⟩
    rcases hserved.kept ticket r hr hcancel with hwait | hanswer
    · exact .inr ⟨hwait, fun hdone => hserved.answer_turn htickets hdone hwait⟩
    · exact .inl hanswer
  case settles =>
    rintro before behind rfl
    have hbefore := phase_run before
    refine ⟨fun hsettled => ?_, fun o hrunning => settle_of_running hbefore hrunning o⟩
    rw [run_append]
    exact (run_of_done (hbefore.done_iff.2 hsettled) behind).2
  case cancels =>
    rintro before ticket behind rfl
    rw [run_append, run_append]
    calc (((start.run before).step (.cancel ticket)).run behind).without ticket
        = ((((start.run before).step (.cancel ticket)).without ticket).run behind).without ticket :=
          (without_run _ _).symm
      _ = (((start.run before).without ticket).run behind).without ticket := by rw [without_cancel]
      _ = ((start.run before).run behind).without ticket := without_run _ _

def cancelledEarly : List Event :=
  [.request 0 (.lookup .pet "7"), .request 1 (.lookup .ability "1"), .cancel 0, .loadBegins,
    .loadEnds (.ok ⟨NameMap.ofList [("1", "Claw")], NameMap.empty⟩), .answer 0, .answer 1]

theorem oneLoad_run_cancelledEarly :
    OneLoad cancelledEarly (start.run cancelledEarly) ∧ (start.run cancelledEarly).loads = 1 ∧
      (start.run cancelledEarly).answers = [(1, .name (.ok (some "Claw")))] :=
  ⟨oneLoad_run (by unfold OwnTickets; decide), rfl, rfl⟩

end Deferred
end BattleScript.Names
