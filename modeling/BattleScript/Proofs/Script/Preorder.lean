import Mathlib.Data.List.Basic
import BattleScript.Proofs.Script.Depth
import BattleScript.Script.Block

/-!
The tree of a script in reading order. An unfinished reading already fixes the nodes and their order;
only the ends of its open blocks depend on the lines still to come. So every line gives its node at the
depth where it is read, and the errors of the blocks that stay open follow after all lines.
-/
namespace BattleScript.Script
open Text

namespace Node

def own : Node → Node
  | .block head _ => .block head []
  | n => n

def isUnterminated : Node → Bool
  | .error message _ => startsWith message "Unterminated if block"
  | _ => false

def preorder (depth : Nat) (ns : List Node) : List (Nat × Node) :=
  (walkAll depth ns).map fun e => (e.1, e.2.own)

theorem walkAll_append (depth : Nat) (as bs : List Node) :
    walkAll depth (as ++ bs) = walkAll depth as ++ walkAll depth bs := by
  induction as with
  | nil => rfl
  | cons n as ih => simp only [List.cons_append, walkAll, ih, List.append_assoc]

theorem preorder_append (depth : Nat) (as bs : List Node) :
    preorder depth (as ++ bs) = preorder depth as ++ preorder depth bs := by
  rw [preorder, walkAll_append, List.map_append]
  rfl

theorem preorder_block (depth : Nat) (head : Head) (children : List Node) :
    preorder depth [.block head children] =
      (depth, .block head []) :: preorder (depth + 1) children := by
  simp only [preorder, walkAll, walk, List.append_nil, List.map_cons, own]

/-- `gAll` gathers along a tree what `g` finds in each node, from a block first what its head holds. -/
structure Gathers (g : Node → List β) (gAll : List Node → List β) : Prop where
  nil : gAll [] = []
  cons : ∀ n ns, gAll (n :: ns) = g n ++ gAll ns
  block : ∀ head children, g (.block head children) = g (.block head []) ++ gAll children

namespace Gathers
variable {g : Node → List β} {gAll : List Node → List β}

theorem append (h : Gathers g gAll) (as bs : List Node) : gAll (as ++ bs) = gAll as ++ gAll bs := by
  induction as with
  | nil => rw [h.nil, List.nil_append, List.nil_append]
  | cons n as ih => rw [List.cons_append, h.cons, ih, h.cons, List.append_assoc]

mutual

theorem walk (h : Gathers g gAll) (depth : Nat) : ∀ n : Node,
    ((Node.walk depth n).map fun e => (e.1, e.2.own)).flatMap (fun e => g e.2) = g n
  | .separator indent => List.append_nil _
  | .action a => List.append_nil _
  | .error message line => List.append_nil _
  | .block head children => by
    have hinside := preorder h (depth + 1) children
    rw [h.block head children, ← hinside]
    simp only [Node.walk, List.map_cons, List.flatMap_cons, own]
    rfl

theorem preorder (h : Gathers g gAll) (depth : Nat) : ∀ ns : List Node,
    (Node.preorder depth ns).flatMap (fun e => g e.2) = gAll ns
  | [] => h.nil.symm
  | n :: ns => by
    have hn := walk h depth n
    have hns := preorder h depth ns
    rw [Node.preorder, walkAll, List.map_append, List.flatMap_append, hn, h.cons, ← hns]
    rfl

end
end Gathers

theorem gathers_heads : Gathers heads headsAll where
  nil := rfl
  cons _ _ := rfl
  block _ _ := by
    rw [heads, heads]
    rfl

theorem gathers_problems : Gathers problems problemsAll where
  nil := rfl
  cons _ _ := rfl
  block _ _ := by
    rw [problems, problems]
    rfl

end Node

/-- The node that a line stands for, if it stands for one. Only a head has an end. -/
def Line.node? (l : Line) (number : Nat) (endLine : Option Nat) : Option Node :=
  match l.kind with
  | .skip => none
  | .separator => some (.separator l.indent)
  | .head none => some (.error malformedMessage number)
  | .head (some condition) =>
    some (.block {
      condition := Condition.ofText condition
      conditionRaw := condition
      indent := l.indent
      line := number
      endLine := endLine.map Int.ofNat } [])
  | .endif => none
  | .action command condition =>
    some (.action {
      kind := ActionKind.ofCommand command
      command
      args := arguments command
      condition := condition.map Condition.ofText
      conditionRaw := condition
      indent := l.indent
      line := number })

theorem isUnterminated_unterminatedMessage (line : Nat) (number : Int) :
    (Node.error (unterminatedMessage line) number).isUnterminated = true := by
  have hm : unterminatedMessage line =
      Text.of "Unterminated if block" ++ (Text.of " (opened at line " ++ ofNat line ++ Text.of ")") := by
    simp only [unterminatedMessage, ← List.append_assoc]
    rfl
  rw [hm]
  exact startsWith_append _ _

theorem Line.isUnterminated_of_node? {l : Line} {number : Nat} {e : Option Nat} {n : Node}
    (h : l.node? number e = some n) : n.isUnterminated = false := by
  unfold Line.node? at h
  split at h <;> cases h <;> rfl

def openEntries (ends : Nat → Option Nat) : List OpenBlock → List (Nat × Node)
  | [] => []
  | o :: os =>
    openEntries ends os ++ Node.preorder os.length o.before ++
      [(os.length, o.close [] (ends os.length))]

def openErrors : List OpenBlock → List (Nat × Node)
  | [] => []
  | o :: os => (os.length, .error (unterminatedMessage o.line) o.line) :: openErrors os

theorem openEntries_congr {e e' : Nat → Option Nat} (os : List OpenBlock)
    (h : ∀ i < os.length, e i = e' i) : openEntries e os = openEntries e' os := by
  induction os with
  | nil => rfl
  | cons o os ih =>
    have htail : openEntries e os = openEntries e' os :=
      ih fun i hi => h i (Nat.lt_succ_of_lt hi)
    simp only [openEntries, htail, h os.length (Nat.lt_succ_self _)]

theorem isUnterminated_of_mem_openErrors {os : List OpenBlock} {e : Nat × Node}
    (h : e ∈ openErrors os) : e.2.isUnterminated = true := by
  induction os with
  | nil => cases h
  | cons o os ih =>
    rcases List.mem_cons.1 h with rfl | h
    · exact isUnterminated_unterminatedMessage o.line o.line
    · exact ih h

namespace Reading

def entries (ends : Nat → Option Nat) (s : Reading) : List (Nat × Node) :=
  openEntries ends s.opened ++ Node.preorder s.opened.length s.nodes

theorem preorder_unwind (nodes : List Node) (notes : List Note) (os : List OpenBlock) :
    Node.preorder 0 (unwind nodes notes os).1 =
      openEntries (fun _ => none) os ++ Node.preorder os.length nodes ++ openErrors os := by
  induction os generalizing nodes notes with
  | nil => simp only [unwind, openEntries, openErrors, List.length_nil, List.nil_append, List.append_nil]
  | cons o os ih =>
    have hpair : Node.preorder os.length
        [o.close nodes none, .error (unterminatedMessage o.line) o.line] =
          (os.length, o.close [] none) :: Node.preorder (os.length + 1) nodes ++
            [(os.length, .error (unterminatedMessage o.line) o.line)] :=
      (Node.preorder_append _ [o.close nodes none] _).trans
        (congrArg (· ++ _) (Node.preorder_block _ _ _))
    rw [unwind, ih, Node.preorder_append, hpair]
    simp only [openEntries, openErrors, List.length_cons, List.append_assoc, List.cons_append,
      List.nil_append]

theorem preorder_finish (s : Reading) :
    Node.preorder 0 s.finish.1 = s.entries (fun _ => none) ++ openErrors s.opened :=
  preorder_unwind s.nodes s.notes s.opened

theorem length_opened_step (s : Reading) (number : Nat) (l : Line) :
    (s.step number l).opened.length = l.deepen s.opened.length := by
  obtain ⟨indent, text, kind⟩ := l
  cases kind with
  | head condition => cases condition <;> rfl
  | endif =>
    obtain ⟨nodes, opened, notes⟩ := s
    cases opened <;> rfl
  | _ => rfl

theorem length_opened_run (s : Reading) (number : Nat) (ls : List Line) :
    (s.run number ls).opened.length = ls.foldl Line.deepen s.opened.length := by
  induction ls generalizing s number with
  | nil => rfl
  | cons l ls ih => rw [run, ih, length_opened_step, List.foldl_cons]

def lineEntries (depth number : Nat) (l : Line) (e : Option Nat) : List (Nat × Node) :=
  ((l.node? number e).map fun n => (depth, n)).toList

/-- Where the open blocks end, as seen from before a line: an `endif` ends the one that it returns
from, and after it `ends` holds. -/
def endsBefore (depth number : Nat) (l : Line) (ends : Nat → Option Nat) : Nat → Option Nat :=
  fun i => if l.kind = .endif ∧ l.deepen depth = i then some number else ends i

theorem endsBefore_of_ne {l : Line} (h : l.kind ≠ .endif) (depth number : Nat)
    (ends : Nat → Option Nat) : endsBefore depth number l ends = ends := by
  funext i
  exact if_neg fun he => h he.1

theorem entries_push (s : Reading) (ends : Nat → Option Nat) (n : Node) :
    (s.push n).entries ends = s.entries ends ++ Node.preorder s.opened.length [n] := by
  simp only [entries, push, Node.preorder_append, List.append_assoc]

theorem entries_open (s : Reading) (ends : Nat → Option Nat) (condition : Text)
    (indent number : Nat) :
    Reading.entries ends
        { s with nodes := [], opened := ⟨condition, indent, number, s.nodes⟩ :: s.opened } =
      s.entries ends ++ [(s.opened.length,
        OpenBlock.close ⟨condition, indent, number, s.nodes⟩ [] (ends s.opened.length))] :=
  List.append_nil _

theorem entries_close (ends : Nat → Option Nat) (nodes : List Node) (o : OpenBlock)
    (os : List OpenBlock) (notes : List Note) (number : Nat) :
    Reading.entries ends ⟨o.before ++ [o.close nodes (some number)], os, notes⟩ =
      Reading.entries (fun i => if os.length = i then some number else ends i)
        ⟨nodes, o :: os, notes⟩ := by
  have hos : openEntries (fun i => if os.length = i then some number else ends i) os =
      openEntries ends os :=
    openEntries_congr os fun i hi => if_neg (Nat.ne_of_gt hi)
  have hblock : Node.preorder os.length [o.close nodes (some number)] =
      (os.length, o.close [] (some number)) :: Node.preorder (os.length + 1) nodes :=
    Node.preorder_block _ _ _
  simp only [entries, openEntries, hos, if_true, Node.preorder_append, hblock, List.length_cons,
    List.append_assoc, List.cons_append, List.nil_append]

theorem entries_step (s : Reading) (number : Nat) (l : Line) (ends : Nat → Option Nat) :
    (s.step number l).entries ends =
      s.entries (endsBefore s.opened.length number l ends) ++
        lineEntries s.opened.length number l (ends s.opened.length) := by
  obtain ⟨indent, text, kind⟩ := l
  have hkeep (h : kind ≠ .endif) : endsBefore s.opened.length number ⟨indent, text, kind⟩ ends = ends :=
    endsBefore_of_ne h _ _ _
  cases kind with
  | skip =>
    rw [hkeep nofun]
    exact (List.append_nil _).symm
  | separator =>
    rw [hkeep nofun]
    exact entries_push s ends _
  | head condition =>
    rw [hkeep nofun]
    cases condition with
    | none => exact entries_push s ends _
    | some condition => exact entries_open s ends condition indent number
  | action command condition =>
    rw [hkeep nofun]
    exact entries_push s ends _
  | endif =>
    obtain ⟨nodes, opened, notes⟩ := s
    cases opened with
    | nil => exact (List.append_nil _).symm
    | cons o os =>
      have hends : endsBefore (os.length + 1) number ⟨indent, text, .endif⟩ ends =
          fun i => if os.length = i then some number else ends i := by
        funext i
        simp only [endsBefore, Line.deepen, true_and, Nat.add_sub_cancel]
      have h := entries_close ends nodes o os notes number
      rw [← hends] at h
      exact h.trans (List.append_nil _).symm

theorem entries_run (s : Reading) (number : Nat) (ls : List Line) :
    (s.run number ls).entries (fun _ => none) =
      s.entries (fun i => closing i s.opened.length number ls) ++
        sweep lineEntries s.opened.length number ls := by
  -- The ends that the first line leaves open are told by the lines after it.
  induction ls generalizing s number with
  | nil => simp only [run, closing, sweep, List.append_nil]
  | cons l ls ih =>
    rw [run, ih, entries_step, length_opened_step, sweep, List.append_assoc]
    rfl

def ofLines (ls : List Line) : Reading :=
  start.run 1 ls

theorem length_opened_ofLines (ls : List Line) :
    (ofLines ls).opened.length = ls.foldl Line.deepen 0 :=
  length_opened_run start 1 ls

end Reading

theorem preorder_ofLines (ls : List Line) :
    Node.preorder 0 (Reading.ofLines ls).finish.1 =
      sweep Reading.lineEntries 0 1 ls ++ openErrors (Reading.ofLines ls).opened := by
  rw [Reading.preorder_finish, Reading.ofLines, Reading.entries_run]
  rfl

theorem Node.Gathers.ofLines {g : Node → List β} {gAll : List Node → List β} (h : Node.Gathers g gAll)
    (ls : List Line) :
    gAll (Reading.ofLines ls).finish.1 =
      ((ls.zipIdx 1).flatMap fun p => (p.1.node? p.2 (endLine ls p.2)).toList.flatMap g) ++
        (Reading.ofLines ls).opened.flatMap fun o =>
          g (.error (unterminatedMessage o.line) o.line) := by
  have herrors (os : List OpenBlock) : ((openErrors os).flatMap fun e => g e.2) =
      os.flatMap fun o => g (.error (unterminatedMessage o.line) o.line) := by
    induction os with
    | nil => rfl
    | cons o os ih => rw [openErrors, List.flatMap_cons, List.flatMap_cons, ih]
  have hline (depth number : Nat) (l : Line) (e : Option Nat) :
      ((Reading.lineEntries depth number l e).flatMap fun e => g e.2) =
        (l.node? number e).toList.flatMap g := by
    rw [Reading.lineEntries]
    cases l.node? number e <;> rfl
  rw [← h.preorder 0, preorder_ofLines, List.flatMap_append, herrors, sweep_eq_flatMap,
    List.flatMap_assoc]
  simp only [hline]

theorem filter_openErrors (os : List OpenBlock) :
    (openErrors os).filter (fun e => !e.2.isUnterminated) = [] := by
  rw [List.filter_eq_nil_iff]
  intro e he
  simp only [isUnterminated_of_mem_openErrors he, Bool.not_true, Bool.false_eq_true, not_false_eq_true]

theorem filter_lineEntries (depth number : Nat) (l : Line) (e : Option Nat) :
    (Reading.lineEntries depth number l e).filter (fun e => !e.2.isUnterminated) =
      Reading.lineEntries depth number l e := by
  rw [List.filter_eq_self]
  intro entry hentry
  obtain ⟨n, hn, rfl⟩ := Option.map_eq_some_iff.1 (Option.mem_toList.1 hentry)
  simp only [Line.isUnterminated_of_node? hn, Bool.not_false]

/-- In reading order, and apart from the errors of blocks without `endif`, a tree has one node for
every line that is neither skipped nor an `endif`, in the order of the lines. It stands at the depth
behind the lines before it and is told by its line alone, except that a block ends with the first later
`endif` that comes back to the depth of its head. -/
theorem preorder_parseLines (lines : List Text) :
    let ls := lines.map Line.ofText
    (Node.preorder 0 (parseLines lines)).filter (fun e => !e.2.isUnterminated) =
        (ls.zipIdx 1).filterMap (fun p =>
          (p.1.node? p.2 (endLine ls p.2)).map fun n => (depthAfter ls (p.2 - 1), n)) ∧
      ∀ k, (∀ m, endLine ls k = some m ↔
          IsLeast {m | k < m ∧ ReturnsTo ls (depthAfter ls (k - 1)) m} m) ∧
        (endLine ls k = none ↔ ¬ ∃ m, k < m ∧ ReturnsTo ls (depthAfter ls (k - 1)) m) := by
  intro ls
  refine ⟨?_, fun k => ⟨fun m => endLine_eq_some_iff, ?_⟩⟩
  · have hrun : Node.preorder 0 (parseLines lines) = _ := preorder_ofLines ls
    rw [hrun, List.filter_append, filter_openErrors, List.append_nil, sweep_eq_flatMap,
      List.filter_flatMap, List.filterMap_eq_flatMap_toList]
    simp only [filter_lineEntries]
    rfl
  · rw [endLine_eq_none_iff]
    simp only [not_exists, not_and]

end BattleScript.Script
