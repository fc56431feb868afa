import BattleScript.Proofs.Script.Spine

/-!
Errors and notes of a script. A malformed head is reported where it is read, and a block without
`endif` when the lines have ended, from the inside out. So the order of errors and notes is that of the
lines for the former, and after them the reverse order of the lines for the latter. Every `endif` closes
a block or is noted as stray.
-/
namespace BattleScript.Script
open Text

def Line.opensBlock (l : Line) : Bool :=
  match l.kind with
  | .head (some _) => true
  | _ => false

def Note.isStray : Note → Bool
  | .strayEndif _ => true
  | _ => false

def malformedLines (ls : List Line) : List Nat :=
  ((ls.zipIdx 1).filter fun p => p.1.isMalformedHead).map Prod.snd

def unclosedLines (ls : List Line) : List Nat :=
  ((ls.zipIdx 1).filter fun p => p.1.opensBlock && (endLine ls p.2).isNone).map Prod.snd

/-- What is noted on reading a line at `depth`. -/
def Line.note? (l : Line) (depth number : Nat) : Option Note :=
  match l.kind with
  | .head none => some (.malformedHead number l.text)
  | .endif => if depth = 0 then some (.strayEndif number) else none
  | _ => none

theorem flatMap_if (p : α → Bool) (f : α → β) (xs : List α) :
    (xs.flatMap fun x => if p x then [f x] else []) = (xs.filter p).map f := by
  induction xs with
  | nil => rfl
  | cons x xs ih =>
    rw [List.flatMap_cons, ih, List.filter_cons]
    cases p x <;> rfl

theorem headsAll_ofLines (ls : List Line) :
    Node.headsAll (Reading.ofLines ls).finish.1 =
      (ls.zipIdx 1).flatMap fun p => (p.1.node? p.2 (endLine ls p.2)).toList.flatMap Node.heads := by
  have hnone : ((Reading.ofLines ls).opened.flatMap fun o =>
      Node.heads (.error (unterminatedMessage o.line) o.line)) = [] :=
    List.flatMap_eq_nil_iff.2 fun _ _ => rfl
  rw [Node.gathers_heads.ofLines, hnone, List.append_nil]

theorem lines_heads_node? (l : Line) (number : Nat) (e : Option Nat) :
    (((l.node? number e).toList.flatMap Node.heads).filter (!·.isClosed)).map Head.line =
      if l.opensBlock && e.isNone then [(number : Int)] else [] := by
  obtain ⟨indent, text, kind⟩ := l
  cases kind with
  | head condition => cases condition <;> cases e <;> rfl
  | _ => rfl

theorem AllClosed.filter_eq_nil {ns : List Node} (h : AllClosed ns) :
    (Node.headsAll ns).filter (!·.isClosed) = [] := by
  rw [List.filter_eq_nil_iff]
  intro head hhead
  simp only [h head hhead, Bool.not_true, Bool.false_eq_true, not_false_eq_true]

theorem unclosed_unwind (nodes : List Node) (notes : List Note) (os : List OpenBlock)
    (h : ∀ o ∈ os, AllClosed o.before) :
    ((Node.headsAll (Reading.unwind nodes notes os).1).filter (!·.isClosed)).map Head.line =
      (os.map fun o => (o.line : Int)).reverse ++
        ((Node.headsAll nodes).filter (!·.isClosed)).map Head.line := by
  induction os generalizing nodes notes with
  | nil => rfl
  | cons o os ih =>
    obtain ⟨ho, hos⟩ := List.forall_mem_cons.1 h
    have hpair : ((Node.headsAll [o.close nodes none,
        .error (unterminatedMessage o.line) o.line]).filter (!·.isClosed)).map Head.line =
          (o.line : Int) :: ((Node.headsAll nodes).filter (!·.isClosed)).map Head.line := by
      simp only [OpenBlock.close, Node.headsAll, Node.heads, List.append_nil, Option.map_none,
        List.filter_cons, Head.isClosed, Option.isSome_none, Bool.not_false, if_true, List.map_cons]
    rw [Reading.unwind, ih _ _ hos, Node.gathers_heads.append, List.filter_append, ho.filter_eq_nil,
      List.nil_append, hpair, List.map_cons, List.reverse_cons, List.append_assoc]
    rfl

theorem lines_unclosed_ofLines (ls : List Line) :
    ((Node.headsAll (Reading.ofLines ls).finish.1).filter (!·.isClosed)).map Head.line =
      (unclosedLines ls).map Int.ofNat := by
  rw [headsAll_ofLines, List.filter_flatMap, List.map_flatMap]
  simp only [lines_heads_node?]
  rw [flatMap_if (fun p : Line × Nat => p.1.opensBlock && (endLine ls p.2).isNone)
    (fun p => (p.2 : Int)), unclosedLines, List.map_map]
  rfl

theorem lines_opened_ofLines (ls : List Line) :
    (Reading.ofLines ls).opened.map OpenBlock.line = (unclosedLines ls).reverse := by
  obtain ⟨hnodes, hopened⟩ := Reading.settled_ofLines ls
  have hunwind := unclosed_unwind (Reading.ofLines ls).nodes (Reading.ofLines ls).notes
    (Reading.ofLines ls).opened hopened
  rw [hnodes.filter_eq_nil, List.map_nil, List.append_nil] at hunwind
  -- The tree keeps its lines as integers, so the two lists are compared there.
  have hcast : ((Reading.ofLines ls).opened.map OpenBlock.line).map Int.ofNat =
      (unclosedLines ls).reverse.map Int.ofNat := by
    rw [List.map_map, List.map_reverse, ← lines_unclosed_ofLines, ← List.reverse_eq_iff]
    exact hunwind.symm
  exact List.map_injective_iff.2 (fun _ _ => Int.ofNat.inj) hcast

theorem problemsAll_ofLines (ls : List Line) :
    Node.problemsAll (Reading.ofLines ls).finish.1 =
      (malformedLines ls).map (fun k => ⟨malformedMessage, k⟩) ++
        (unclosedLines ls).reverse.map fun k => ⟨unterminatedMessage k, k⟩ := by
  have hline (l : Line) (number : Nat) (e : Option Nat) :
      (l.node? number e).toList.flatMap Node.problems =
        if l.isMalformedHead then [⟨malformedMessage, number⟩] else [] := by
    obtain ⟨indent, text, kind⟩ := l
    cases kind with
    | head condition => cases condition <;> rfl
    | _ => rfl
  rw [Node.gathers_problems.ofLines, ← lines_opened_ofLines, List.map_map]
  simp only [hline, Node.problems]
  rw [flatMap_if (fun p : Line × Nat => p.1.isMalformedHead)
    (fun p => (⟨malformedMessage, p.2⟩ : Problem)), malformedLines, List.map_map,
    ← List.map_eq_flatMap]
  rfl

namespace Reading

def lineNotes (depth number : Nat) (l : Line) (_ : Option Nat) : List Note :=
  (l.note? depth number).toList

theorem notes_step (s : Reading) (number : Nat) (l : Line) :
    (s.step number l).notes = s.notes ++ (l.note? s.opened.length number).toList := by
  obtain ⟨indent, text, kind⟩ := l
  cases kind with
  | head condition =>
    cases condition with
    | none => rfl
    | some condition => exact (List.append_nil _).symm
  | endif =>
    obtain ⟨nodes, opened, notes⟩ := s
    cases opened with
    | nil => rfl
    | cons o os => exact (List.append_nil _).symm
  | _ => exact (List.append_nil _).symm

theorem notes_run (s : Reading) (number : Nat) (ls : List Line) :
    (s.run number ls).notes = s.notes ++ sweep lineNotes s.opened.length number ls := by
  induction ls generalizing s number with
  | nil => exact (List.append_nil _).symm
  | cons l ls ih =>
    rw [run, ih, notes_step, length_opened_step, sweep, List.append_assoc]
    rfl

theorem notes_ofLines (ls : List Line) : (ofLines ls).notes = sweep lineNotes 0 1 ls :=
  notes_run start 1 ls

theorem notes_unwind (nodes : List Node) (notes : List Note) (os : List OpenBlock) :
    (unwind nodes notes os).2 = notes ++ os.map fun o => .unterminated o.line := by
  induction os generalizing nodes notes with
  | nil => exact (List.append_nil _).symm
  | cons o os ih => rw [unwind, ih, List.append_assoc, List.map_cons]; rfl

end Reading

theorem notes_finish_ofLines (ls : List Line) :
    (Reading.ofLines ls).finish.2 =
      (ls.zipIdx 1).filterMap (fun p => p.1.note? (depthAfter ls (p.2 - 1)) p.2) ++
        (unclosedLines ls).reverse.map .unterminated := by
  rw [Reading.finish, Reading.notes_unwind, Reading.notes_ofLines, ← lines_opened_ofLines,
    List.map_map, List.filterMap_eq_flatMap_toList]
  exact congrArg (· ++ _) (sweep_eq_flatMap _ ls)

theorem length_headsAll_ofLines (ls : List Line) :
    (Node.headsAll (Reading.ofLines ls).finish.1).length = ls.countP Line.opensBlock := by
  have hline (l : Line) (number : Nat) (e : Option Nat) :
      ((l.node? number e).toList.flatMap Node.heads).map Head.line =
        if l.opensBlock then [(number : Int)] else [] := by
    obtain ⟨indent, text, kind⟩ := l
    cases kind with
    | head condition => cases condition <;> rfl
    | _ => rfl
  have hfirst : ls.countP Line.opensBlock =
      (ls.zipIdx 1).countP fun p => p.1.opensBlock := by
    conv_lhs => rw [← List.zipIdx_map_fst 1 ls]
    exact List.countP_map
  rw [← List.length_map Head.line, headsAll_ofLines, List.map_flatMap]
  simp only [hline]
  rw [flatMap_if (fun p : Line × Nat => p.1.opensBlock) (fun p => (p.2 : Int)), List.length_map,
    ← List.countP_eq_length_filter, hfirst]

theorem depth_balance_line (depth number : Nat) (l : Line) (e : Option Nat) :
    l.deepen depth + (if l.kind = .endif then 1 else 0) =
      depth + (if l.opensBlock then 1 else 0) +
        (Reading.lineNotes depth number l e).countP Note.isStray := by
  obtain ⟨indent, text, kind⟩ := l
  cases kind with
  | head condition => cases condition <;> rfl
  | endif => cases depth <;> rfl
  | _ => rfl

theorem depth_balance (depth number : Nat) (ls : List Line) :
    ls.foldl Line.deepen depth + ls.countP (fun l => l.kind = .endif) =
      depth + ls.countP Line.opensBlock +
        (sweep Reading.lineNotes depth number ls).countP Note.isStray := by
  induction ls generalizing depth number with
  | nil => rfl
  | cons l ls ih =>
    have hline := depth_balance_line depth number l
      (closing depth (l.deepen depth) (number + 1) ls)
    have hrest := ih (l.deepen depth) (number + 1)
    rw [List.foldl_cons, List.countP_cons, List.countP_cons, sweep, List.countP_append]
    simp only [decide_eq_true_eq]
    omega

theorem countP_endif_ofLines (ls : List Line) :
    ls.countP (fun l => l.kind = .endif) =
      (Node.headsAll (Reading.ofLines ls).finish.1).countP Head.isClosed +
        (Reading.ofLines ls).finish.2.countP Note.isStray := by
  have hopen : ((Node.headsAll (Reading.ofLines ls).finish.1).filter (!·.isClosed)).length =
      ls.foldl Line.deepen 0 := by
    have hlen := congrArg List.length (lines_opened_ofLines ls)
    rw [List.length_map, List.length_reverse, Reading.length_opened_ofLines] at hlen
    rw [← List.length_map Head.line, lines_unclosed_ofLines, List.length_map, ← hlen]
  have hall : (Node.headsAll (Reading.ofLines ls).finish.1).countP Head.isClosed +
      ls.foldl Line.deepen 0 = ls.countP Line.opensBlock := by
    rw [← length_headsAll_ofLines, List.length_eq_countP_add_countP Head.isClosed, ← hopen,
      ← List.countP_eq_length_filter]
    simp only [Bool.not_eq_true, Bool.decide_eq_false]
  have hstray : (Reading.ofLines ls).finish.2.countP Note.isStray =
      (sweep Reading.lineNotes 0 1 ls).countP Note.isStray := by
    have hnone : ((Reading.ofLines ls).opened.map fun o =>
        Note.unterminated o.line).countP Note.isStray = 0 := by
      rw [List.countP_map, List.countP_eq_zero]
      exact fun _ _ => Bool.false_ne_true
    rw [Reading.finish, Reading.notes_unwind, List.countP_append, hnone, Reading.notes_ofLines,
      Nat.add_zero]
  -- What has been opened and not closed is the depth behind the last line.
  have hbalance := depth_balance 0 1 ls
  omega

/-- The errors of a script are those of its malformed heads, in the order of the lines, and then those
of its blocks without `endif`, in reverse. The notes are taken in the same order, with one for each
stray `endif` among the former. In the tree every block without `endif` is followed by its error, after
which no sibling comes, and of two such blocks one is inside the other. The other `endif`s are as many
as the closed blocks. -/
theorem parseLines_accounts (lines : List Text) :
    let ls := lines.map Line.ofText
    let tree := parseLines lines
    let notes := (readLines lines).2
    Node.problemsAll tree =
        (malformedLines ls).map (fun k => ⟨malformedMessage, k⟩) ++
          (unclosedLines ls).reverse.map (fun k => ⟨unterminatedMessage k, k⟩) ∧
      ((Node.headsAll tree).filter (!·.isClosed)).map Head.line =
        (unclosedLines ls).map Int.ofNat ∧
      OpenBlocksNested tree ∧
      notes = (ls.zipIdx 1).filterMap (fun p => p.1.note? (depthAfter ls (p.2 - 1)) p.2) ++
        (unclosedLines ls).reverse.map .unterminated ∧
      ls.countP (fun l => l.kind = .endif) =
        (Node.headsAll tree).countP Head.isClosed + notes.countP Note.isStray := by
  intro ls tree notes
  exact ⟨problemsAll_ofLines ls, lines_unclosed_ofLines ls, (spine_parseLines lines).openBlocksNested,
    notes_finish_ofLines ls, countP_endif_ofLines ls⟩

end BattleScript.Script
