import BattleScript.Names.Resolver

/-!
A resolver whose catalog is loaded on first use. Requests may be started, answered and cancelled in
any order; they all wait for the one load, a task that the first of them creates. A request waits behind
a shield, so that its cancellation does not reach the task.
-/
namespace BattleScript.Names

abbrev Outcome := Except Text Catalog

inductive Request where
  | lookup (kind : NameKind) (id : Text)
  | settled
deriving DecidableEq, Repr

inductive Answer where
  | name (result : Except LookupError (Option Text))
  | state (word : Text)
  | raised (e : Resolver.AlreadySettled)
  | cancelled

/-- The task of the load: not created yet, created, at work, or ended in one of three ways. -/
inductive Load where
  | idle
  | scheduled
  | running
  | done
  | broken (e : Resolver.AlreadySettled)
  | cancelled
deriving DecidableEq, Repr

/-- What a request waits for: the task itself, or a future that is completed when the task ends. -/
inductive Awaited where
  | task
  | shield
deriving DecidableEq, Repr

def Load.afterCancel (load : Load) : Awaited → Load
  | .shield => load
  | .task =>
    match load with
    | .scheduled | .running => .cancelled
    | load => load

inductive Event where
  | request (ticket : Nat) (r : Request)
  | loadBegins
  | loadEnds (outcome : Outcome)
  | answer (ticket : Nat)
  | cancel (ticket : Nat)

structure Deferred where
  load : Load
  resolver : Resolver
  loads : Nat
  waiting : List (Nat × Request)
  answers : List (Nat × Answer)
  log : List LogRecord

namespace Deferred

def start : Deferred := ⟨.idle, .pending, 0, [], [], []⟩

def answerOf (r : Resolver) : Request → Answer
  | .lookup kind id => .name (r.lookup kind id)
  | .settled => .state r.stateWord

def awaited : Awaited := .shield

def marked (d : Deferred) : Except Resolver.AlreadySettled Resolver → Deferred
  | .ok r => { d with load := .done, resolver := r }
  | .error e => { d with load := .broken e }

def settleWith (d : Deferred) : Outcome → Deferred
  | .ok catalog => d.marked (d.resolver.markLoaded catalog)
  | .error message =>
    { d with log := d.log ++ [loadFailedRecord message] }.marked d.resolver.markFailed

def resume? (d : Deferred) (r : Request) : Option Answer :=
  match d.load with
  | .idle | .scheduled | .running => none
  | .done => some (answerOf d.resolver r)
  | .broken e => some (.raised e)
  | .cancelled => some .cancelled

/-- One event; an event that cannot happen in this state changes nothing. -/
def step (d : Deferred) : Event → Deferred
  | .request ticket r =>
    { d with
      load := if d.load = .idle then .scheduled else d.load
      waiting := d.waiting ++ [(ticket, r)] }
  | .loadBegins =>
    if d.load = .scheduled then { d with load := .running, loads := d.loads + 1 } else d
  | .loadEnds outcome => if d.load = .running then d.settleWith outcome else d
  | .answer ticket =>
    match (d.waiting.lookup ticket).bind d.resume? with
    | some a =>
      { d with
        waiting := d.waiting.filter fun w => w.1 ≠ ticket
        answers := d.answers ++ [(ticket, a)] }
    | none => d
  | .cancel ticket =>
    { d with
      load := if (d.waiting.lookup ticket).isSome then d.load.afterCancel awaited else d.load
      waiting := d.waiting.filter fun w => w.1 ≠ ticket }

def run (d : Deferred) : List Event → Deferred
  | [] => d
  | e :: es => run (d.step e) es

def together (outcome : Outcome) (requests : List (Nat × Request)) : List Event :=
  requests.map (fun r => .request r.1 r.2) ++ [.loadBegins, .loadEnds outcome] ++
    requests.map fun r => .answer r.1

end Deferred
end BattleScript.Names
