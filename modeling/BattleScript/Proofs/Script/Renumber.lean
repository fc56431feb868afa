import BattleScript.Proofs.Script.Preorder

/-!
Trees and readings under other line numbers. Numbers stand in nodes, in the ends of blocks and inside
the messages about blocks without `endif`. Reading commutes with a change of all of them: only the
numbers that a reading starts with matter to the numbers that it writes.
-/
namespace BattleScript.Script
open Text

def quotedLine? (message : Text) : Option Nat :=
  let number := Nat.ofDigitChars 10 (message.filter Char.isDigit) 0
  if message = unterminatedMessage number then some number else none

theorem filter_isDigit_ofNat (n : Nat) : (ofNat n).filter Char.isDigit = ofNat n := by
  rw [List.filter_eq_self]
  intro c hc
  exact Nat.isDigit_of_mem_toDigits (by decide) (by decide) hc

theorem quotedLine?_unterminatedMessage (n : Nat) :
    quotedLine? (unterminatedMessage n) = some n := by
  have hfront : (Text.of "Unterminated if block (opened at line ").filter Char.isDigit = [] := by decide
  have hback : (Text.of ")").filter Char.isDigit = [] := by decide
  have hdigits : (unterminatedMessage n).filter Char.isDigit = ofNat n := by
    rw [unterminatedMessage, List.filter_append, List.filter_append, hfront, hback,
      filter_isDigit_ofNat, List.nil_append, List.append_nil]
  have hvalue : Nat.ofDigitChars 10 (ofNat n) 0 = n := Nat.ofDigitChars_ten_toDigits
  simp only [quotedLine?, hdigits, hvalue, if_true]

theorem quotedLine?_malformedMessage : quotedLine? malformedMessage = none := by decide

def renumberMessage (f : Int → Int) (message : Text) : Text :=
  match quotedLine? message with
  | some n => unterminatedMessage (f n).toNat
  | none => message

theorem renumberMessage_unterminatedMessage (f : Int → Int) (n : Nat) :
    renumberMessage f (unterminatedMessage n) = unterminatedMessage (f n).toNat := by
  simp only [renumberMessage, quotedLine?_unterminatedMessage]

theorem renumberMessage_malformedMessage (f : Int → Int) :
    renumberMessage f malformedMessage = malformedMessage := by
  simp only [renumberMessage, quotedLine?_malformedMessage]

namespace Node

mutual

/-- The tree with `f` applied to all its line numbers. -/
def renumber (f : Int → Int) : Node → Node
  | .separator indent => .separator indent
  | .action a => .action { a with line := f a.line }
  | .error message line => .error (renumberMessage f message) (f line)
  | .block head children =>
    .block { head with line := f head.line, endLine := head.endLine.map f } (renumberAll f children)

def renumberAll (f : Int → Int) : List Node → List Node
  | [] => []
  | n :: ns => renumber f n :: renumberAll f ns

end

def shift (n : Nat) (ns : List Node) : List Node :=
  renumberAll (· + n) ns

theorem renumberAll_append (f : Int → Int) (as bs : List Node) :
    renumberAll f (as ++ bs) = renumberAll f as ++ renumberAll f bs := by
  induction as with
  | nil => rfl
  | cons n as ih => simp only [List.cons_append, renumberAll, ih]

end Node

def Note.renumber (f : Int → Int) : Note → Note
  | .strayEndif line => .strayEndif (f line).toNat
  | .malformedHead line text => .malformedHead (f line).toNat text
  | .unterminated line => .unterminated (f line).toNat

def OpenBlock.renumber (f : Int → Int) (o : OpenBlock) : OpenBlock :=
  { o with line := (f o.line).toNat, before := Node.renumberAll f o.before }

def Reading.renumber (f : Int → Int) (s : Reading) : Reading :=
  ⟨Node.renumberAll f s.nodes, s.opened.map (·.renumber f), s.notes.map (·.renumber f)⟩

namespace Reading

theorem renumber_push (f : Int → Int) (s : Reading) (n : Node) :
    (s.renumber f).push (n.renumber f) = (s.push n).renumber f := by
  simp only [renumber, push, Node.renumberAll_append]
  rfl

theorem renumber_note (f : Int → Int) (s : Reading) (n : Note) :
    (s.renumber f).note (n.renumber f) = (s.note n).renumber f := by
  simp only [renumber, note, List.map_append, List.map_cons, List.map_nil]

end Reading

section Renumbering
variable {f : Int → Int} (hnat : ∀ n : Nat, 0 ≤ f n)
include hnat

theorem OpenBlock.close_renumber (o : OpenBlock) (children : List Node) (e e' : Option Nat)
    (he : (e.map Int.ofNat).map f = e'.map Int.ofNat) :
    (o.renumber f).close (Node.renumberAll f children) e' = (o.close children e).renumber f := by
  have hline : (((f o.line).toNat : Nat) : Int) = f o.line := Int.toNat_of_nonneg (hnat o.line)
  simp only [OpenBlock.close, OpenBlock.renumber, Node.renumber, hline, he]

namespace Reading

theorem step_renumber (s : Reading) {number number' : Nat} (h : f number = number') (l : Line) :
    (s.renumber f).step number' l = (s.step number l).renumber f := by
  have hto : (f number).toNat = number' := by rw [h, Int.toNat_natCast]
  obtain ⟨indent, text, kind⟩ := l
  cases kind with
  | skip => rfl
  | separator => exact renumber_push f s (.separator indent)
  | head condition =>
    cases condition with
    | none =>
      have herror : Node.renumber f (.error malformedMessage number) =
          .error malformedMessage number' := by
        simp only [Node.renumber, renumberMessage_malformedMessage, h]
      have hnote : Note.renumber f (.malformedHead number text) = .malformedHead number' text := by
        simp only [Note.renumber, hto]
      simp only [step, ← herror, ← hnote, renumber_push, renumber_note]
    | some condition =>
      simp only [step, renumber, Node.renumberAll, List.map_cons, OpenBlock.renumber, hto]
  | endif =>
    obtain ⟨nodes, opened, notes⟩ := s
    cases opened with
    | nil =>
      have hnote : Note.renumber f (.strayEndif number) = .strayEndif number' := by
        simp only [Note.renumber, hto]
      have hs := renumber_note f ⟨nodes, [], notes⟩ (.strayEndif number)
      rw [hnote] at hs
      exact hs
    | cons o os =>
      have hclose := OpenBlock.close_renumber hnat o nodes (some number) (some number')
        (congrArg some h)
      simp only [step, renumber, List.map_cons, Node.renumberAll_append, hclose]
      rfl
  | action command condition =>
    have haction : Node.renumber f (.action (Action.ofCommand command condition indent number)) =
        .action (Action.ofCommand command condition indent number') := by
      simp only [Action.ofCommand, Node.renumber, h]
    have hs := renumber_push f s (.action (Action.ofCommand command condition indent number))
    rw [haction] at hs
    exact hs

theorem run_renumber (s : Reading) (number number' : Nat) (ls : List Line)
    (h : ∀ i < ls.length, f ((number + i : Nat) : Int) = (number' + i : Nat)) :
    (s.renumber f).run number' ls = (s.run number ls).renumber f := by
  induction ls generalizing s number number' with
  | nil => rfl
  | cons l ls ih =>
    have hfirst : f number = number' := h 0 (Nat.succ_pos _)
    rw [run, run, step_renumber hnat s hfirst l]
    apply ih
    intro i hi
    have hi' := h (i + 1) (Nat.succ_lt_succ hi)
    rwa [Nat.add_right_comm number 1 i, Nat.add_right_comm number' 1 i]

theorem unwind_renumber (nodes : List Node) (notes : List Note) (os : List OpenBlock) :
    unwind (Node.renumberAll f nodes) (notes.map (·.renumber f)) (os.map (·.renumber f)) =
      (Node.renumberAll f (unwind nodes notes os).1,
        (unwind nodes notes os).2.map (·.renumber f)) := by
  induction os generalizing nodes notes with
  | nil => rfl
  | cons o os ih =>
    have hline : (((f o.line).toNat : Nat) : Int) = f o.line := Int.toNat_of_nonneg (hnat o.line)
    have hclose := OpenBlock.close_renumber hnat o nodes none none rfl
    have hpair : (o.renumber f).before ++ [(o.renumber f).close (Node.renumberAll f nodes) none,
          .error (unterminatedMessage (o.renumber f).line) (o.renumber f).line] =
        Node.renumberAll f (o.before ++ [o.close nodes none,
          .error (unterminatedMessage o.line) o.line]) := by
      rw [hclose, Node.renumberAll_append]
      simp only [OpenBlock.renumber, Node.renumberAll, Node.renumber,
        renumberMessage_unterminatedMessage, hline]
    have hnote : notes.map (·.renumber f) ++ [Note.unterminated (o.renumber f).line] =
        (notes ++ [Note.unterminated o.line]).map (·.renumber f) := by
      rw [List.map_append]
      rfl
    rw [List.map_cons, unwind, hpair, hnote, ih]
    rfl

theorem finish_renumber (s : Reading) :
    (s.renumber f).finish = (Node.renumberAll f s.finish.1, s.finish.2.map (·.renumber f)) :=
  unwind_renumber hnat s.nodes s.notes s.opened

end Reading
end Renumbering

theorem finish_run_add (n : Nat) (ls : List Line) :
    ((Reading.start).run (n + 1) ls).finish.1 = Node.shift n (Reading.ofLines ls).finish.1 := by
  have hnat : ∀ m : Nat, (0 : Int) ≤ (m : Int) + n := fun m => by omega
  have hfollow : ∀ i < ls.length, (((1 + i : Nat) : Int) + n) = ((n + 1 + i : Nat) : Int) :=
    fun i _ => by omega
  have hrun := Reading.run_renumber (f := (· + (n : Int))) hnat Reading.start 1 (n + 1) ls hfollow
  have hfinish := Reading.finish_renumber (f := (· + (n : Int))) hnat (Reading.ofLines ls)
  rw [Reading.ofLines, ← hrun] at hfinish
  exact congrArg Prod.fst hfinish

end BattleScript.Script
