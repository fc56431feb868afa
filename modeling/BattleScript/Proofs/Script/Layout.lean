import BattleScript.Proofs.Script.Composition
import BattleScript.Proofs.Text.Trim

/-!
The layout of a script. Blanks behind a line are not seen at all, blanks in front of it only give the
indents of nodes, and a line that is skipped only moves the numbers of the lines after it.
-/
namespace BattleScript.Script
open Text

def TrailingBlanks (line line' : Text) : Prop :=
  ∃ w, (∀ c ∈ w, isBlank c) ∧ line' = line ++ w

def Reindented (line line' : Text) : Prop :=
  ∃ w w' rest, (∀ c ∈ w, isBlank c) ∧ (∀ c ∈ w', isBlank c) ∧ line = w ++ rest ∧ line' = w' ++ rest

def Line.unindent (l : Line) : Line :=
  { l with indent := 0 }

theorem TrailingBlanks.ofText_eq {line line' : Text} (h : TrailingBlanks line line') :
    Line.ofText line' = Line.ofText line := by
  obtain ⟨w, hw, rfl⟩ := h
  simp only [Line.ofText, trimRight_append hw]

theorem Line.unindent_ofText (line : Text) :
    (Line.ofText line).unindent = ⟨0, trim line, Line.kindOf (trim line)⟩ := by
  simp only [Line.unindent, Line.ofText, trim_trimRight]

theorem Reindented.unindent_eq {line line' : Text} (h : Reindented line line') :
    (Line.ofText line').unindent = (Line.ofText line).unindent := by
  obtain ⟨w, w', rest, hw, hw', rfl, rfl⟩ := h
  rw [Line.unindent_ofText, Line.unindent_ofText, trim_append_left hw, trim_append_left hw']

namespace Node

mutual

def unindent : Node → Node
  | .separator _ => .separator 0
  | .action a => .action { a with indent := 0 }
  | .error message line => .error message line
  | .block head children => .block { head with indent := 0 } (unindentAll children)

def unindentAll : List Node → List Node
  | [] => []
  | n :: ns => unindent n :: unindentAll ns

end

theorem unindentAll_append (as bs : List Node) :
    unindentAll (as ++ bs) = unindentAll as ++ unindentAll bs := by
  induction as with
  | nil => rfl
  | cons n as ih => simp only [List.cons_append, unindentAll, ih]

end Node

def OpenBlock.unindent (o : OpenBlock) : OpenBlock :=
  { o with indent := 0, before := Node.unindentAll o.before }

theorem OpenBlock.close_unindent (o : OpenBlock) (children : List Node) (e : Option Nat) :
    o.unindent.close (Node.unindentAll children) e = (o.close children e).unindent := by
  simp only [OpenBlock.close, OpenBlock.unindent, Node.unindent]

namespace Reading

def unindent (s : Reading) : Reading :=
  { s with nodes := Node.unindentAll s.nodes, opened := s.opened.map OpenBlock.unindent }

theorem unindent_push (s : Reading) (n : Node) :
    s.unindent.push n.unindent = (s.push n).unindent := by
  simp only [unindent, push, Node.unindentAll_append]
  rfl

theorem step_unindent (s : Reading) (number : Nat) (l : Line) :
    s.unindent.step number l.unindent = (s.step number l).unindent := by
  obtain ⟨indent, text, kind⟩ := l
  cases kind with
  | skip => rfl
  | separator => exact unindent_push s (.separator indent)
  | head condition =>
    cases condition with
    | none =>
      have h := unindent_push s (.error malformedMessage number)
      simp only [step, Line.unindent]
      exact congrArg (·.note (.malformedHead number text)) h
    | some condition => rfl
  | endif =>
    obtain ⟨nodes, opened, notes⟩ := s
    cases opened with
    | nil => rfl
    | cons o os =>
      simp only [step, Line.unindent, unindent, List.map_cons, OpenBlock.close_unindent,
        Node.unindentAll_append]
      rfl
  | action command condition =>
    exact unindent_push s (.action (Action.ofCommand command condition indent number))

theorem run_unindent (s : Reading) (number : Nat) (ls : List Line) :
    s.unindent.run number (ls.map Line.unindent) = (s.run number ls).unindent := by
  induction ls generalizing s number with
  | nil => rfl
  | cons l ls ih => rw [List.map_cons, run, step_unindent, ih, run]

theorem unwind_unindent (nodes : List Node) (notes : List Note) (os : List OpenBlock) :
    (unwind (Node.unindentAll nodes) notes (os.map OpenBlock.unindent)).1 =
      Node.unindentAll (unwind nodes notes os).1 := by
  induction os generalizing nodes notes with
  | nil => rfl
  | cons o os ih =>
    have hpair : o.unindent.before ++ [o.unindent.close (Node.unindentAll nodes) none,
          .error (unterminatedMessage o.line) o.line] =
        Node.unindentAll (o.before ++ [o.close nodes none,
          .error (unterminatedMessage o.line) o.line]) := by
      rw [OpenBlock.close_unindent, Node.unindentAll_append]
      rfl
    rw [List.map_cons, unwind, unwind, ← ih, ← hpair]
    rfl

theorem unindentAll_finish_ofLines (ls : List Line) :
    Node.unindentAll (ofLines ls).finish.1 = (ofLines (ls.map Line.unindent)).finish.1 := by
  have hrun : ofLines (ls.map Line.unindent) = (ofLines ls).unindent := run_unindent start 1 ls
  rw [hrun]
  exact (unwind_unindent (ofLines ls).nodes (ofLines ls).notes (ofLines ls).opened).symm

theorem step_skip (s : Reading) (number : Nat) {l : Line} (h : l.kind = .skip) :
    s.step number l = s := by
  rw [step, h]

/-- The number of a line after one more line has come in behind line `k`. -/
def makeRoom (k : Nat) (n : Int) : Int :=
  if (k : Int) < n then n + 1 else n

theorem makeRoom_nonneg (k n : Nat) : 0 ≤ makeRoom k n := by
  unfold makeRoom
  split_ifs <;> omega

theorem finish_ofLines_insert (as bs : List Line) (k : Nat) (hk : as.length ≤ k)
    (hbs : bs = [] ∨ as.length = k) {l : Line} (hl : l.kind = .skip) :
    (ofLines (as ++ l :: bs)).finish.1 =
      Node.renumberAll (makeRoom k) (ofLines (as ++ bs)).finish.1 := by
  have hbefore : ((start).run 1 as).renumber (makeRoom k) = (start).run 1 as := by
    have hkeep : ∀ i < as.length, makeRoom k ((1 + i : Nat) : Int) = (1 + i : Nat) := by
      intro i hi
      exact if_neg (by omega)
    exact (run_renumber (makeRoom_nonneg k) start 1 1 as hkeep).symm
  have hafter : ∀ i < bs.length,
      makeRoom k ((1 + as.length + i : Nat) : Int) = (1 + as.length + 1 + i : Nat) := by
    intro i hi
    rcases hbs with rfl | rfl
    · exact absurd hi (Nat.not_lt_zero i)
    · rw [makeRoom, if_pos (by omega)]
      omega
  have hrun : ofLines (as ++ l :: bs) = (ofLines (as ++ bs)).renumber (makeRoom k) := by
    rw [ofLines, run_append, run, step_skip _ _ hl, ofLines, run_append,
      ← run_renumber (makeRoom_nonneg k) _ _ _ bs hafter, hbefore]
  rw [hrun, finish_renumber (makeRoom_nonneg k)]

end Reading

def withReturns (t : Text) : Text :=
  t.flatMap fun c => if c = '\n' then ['\r', '\n'] else [c]

theorem forall₂_trailingBlanks_consHead (c : Char) {ps qs : List Text}
    (h : List.Forall₂ TrailingBlanks ps qs) :
    List.Forall₂ TrailingBlanks (consHead c ps) (consHead c qs) := by
  cases h with
  | nil => exact .cons ⟨[], nofun, rfl⟩ .nil
  | cons hfirst hrest =>
    obtain ⟨w, hw, rfl⟩ := hfirst
    exact .cons ⟨w, hw, rfl⟩ hrest

theorem splitOn_withReturns (t : Text) :
    List.Forall₂ TrailingBlanks (splitOn '\n' t) (splitOn '\n' (withReturns t)) := by
  induction t with
  | nil => exact .cons ⟨[], nofun, rfl⟩ .nil
  | cons c t ih =>
    by_cases hc : c = '\n'
    · subst hc
      have hblank : ∀ c ∈ ['\r'], isBlank c := List.all_eq_true.1 rfl
      exact .cons ⟨['\r'], hblank, rfl⟩ ih
    · have hreturns : withReturns (c :: t) = c :: withReturns t := by
        rw [withReturns, List.flatMap_cons, if_neg hc]
        rfl
      rw [hreturns, splitOn, splitOn, if_neg hc, if_neg hc]
      exact forall₂_trailingBlanks_consHead c ih

theorem parseLines_trailingBlanks {lines lines' : List Text}
    (h : List.Forall₂ TrailingBlanks lines lines') : parseLines lines' = parseLines lines := by
  have hlines : lines'.map Line.ofText = lines.map Line.ofText := by
    induction h with
    | nil => rfl
    | cons hfirst _ ih => rw [List.map_cons, List.map_cons, hfirst.ofText_eq, ih]
  rw [parseLines, readLines, hlines]
  rfl

theorem unindentAll_parseLines {lines lines' : List Text}
    (h : List.Forall₂ Reindented lines lines') :
    Node.unindentAll (parseLines lines') = Node.unindentAll (parseLines lines) := by
  have hlines : (lines'.map Line.ofText).map Line.unindent =
      (lines.map Line.ofText).map Line.unindent := by
    induction h with
    | nil => rfl
    | cons hfirst _ ih => simp only [List.map_cons, hfirst.unindent_eq, ih]
  have hall := Reading.unindentAll_finish_ofLines (lines.map Line.ofText)
  rw [← hlines, ← Reading.unindentAll_finish_ofLines] at hall
  exact hall.symm

/-- Blanks behind lines leave the tree as it is, and so do carriage returns before line feeds. Other
blanks in front of lines change only indents. A skipped line behind line `k` adds one to the line numbers
greater than `k`, wherever they stand in the tree, and changes nothing else. -/
theorem parseLines_layout (lines : List Text) :
    (∀ lines', List.Forall₂ TrailingBlanks lines lines' → parseLines lines' = parseLines lines) ∧
      (∀ script, parseText (withReturns script) = parseText script) ∧
      (∀ lines', List.Forall₂ Reindented lines lines' →
        Node.unindentAll (parseLines lines') = Node.unindentAll (parseLines lines)) ∧
      ∀ (k : Nat) (line : Text), (Line.ofText line).kind = .skip →
        parseLines (lines.take k ++ line :: lines.drop k) =
          Node.renumberAll (fun n => if (k : Int) < n then n + 1 else n) (parseLines lines) := by
  refine ⟨fun _ => parseLines_trailingBlanks,
    fun script => parseLines_trailingBlanks (splitOn_withReturns script),
    fun _ => unindentAll_parseLines, fun k line hline => ?_⟩
  have hk : ((lines.take k).map Line.ofText).length ≤ k := by
    rw [List.length_map, List.length_take]
    exact Nat.min_le_left _ _
  -- Behind the last line there are no numbers to move, however large `k` is.
  have hrest : (lines.drop k).map Line.ofText = [] ∨
      ((lines.take k).map Line.ofText).length = k := by
    rw [List.map_eq_nil_iff, List.drop_eq_nil_iff, List.length_map, List.length_take]
    omega
  have h := Reading.finish_ofLines_insert _ _ k hk hrest hline
  rw [← List.map_append, List.take_append_drop, ← List.map_cons, ← List.map_append] at h
  exact h

theorem parseLines_layout_block :
    parseLines ["if [x]\r", "quit\u3000\x0b", "if [y]"] = parseLines ["if [x]", "quit", "if [y]"] ∧
      parseText "if [x]\r\nquit" = parseText "if [x]\nquit" ∧
      Node.unindentAll (parseLines ["if [x]", "\t quit", "\u2003if [y]"]) =
        Node.unindentAll (parseLines ["if [x]", "quit", "if [y]"]) ∧
      parseLines ["if [x]", " # note", "quit", "if [y]"] =
        Node.renumberAll (fun n => if (1 : Int) < n then n + 1 else n)
          (parseLines ["if [x]", "quit", "if [y]"]) := by
  obtain ⟨hbehind, hreturns, hfront, hskip⟩ := parseLines_layout ["if [x]", "quit", "if [y]"]
  refine ⟨hbehind _ ?_, hreturns "if [x]\nquit", hfront _ ?_, hskip 1 " # note" (by decide)⟩
  · exact .cons ⟨"\r", List.all_eq_true.1 rfl, rfl⟩
      (.cons ⟨"\u3000\x0b", List.all_eq_true.1 rfl, rfl⟩ (.cons ⟨"", nofun, rfl⟩ .nil))
  · exact .cons ⟨"", "", "if [x]", nofun, nofun, rfl, rfl⟩
      (.cons ⟨"", "\t ", "quit", nofun, List.all_eq_true.1 rfl, rfl, rfl⟩
        (.cons ⟨"", "\u2003", "if [y]", nofun, List.all_eq_true.1 rfl, rfl, rfl⟩ .nil))

end BattleScript.Script
