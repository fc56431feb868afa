import BattleScript.Proofs.Script.Renumber

/-!
Scripts put together from scripts. What stands in front of a reading on the ground, and what lies under
its open blocks, is carried along and never looked at. So a script whose blocks are all closed reads
the same in front of any other and, if it has no stray `endif`, also inside a block.
-/
namespace BattleScript.Script
open Text

namespace Reading

theorem run_append (s : Reading) (number : Nat) (as bs : List Line) :
    s.run number (as ++ bs) = (s.run number as).run (number + as.length) bs := by
  induction as generalizing s number with
  | nil => rfl
  | cons l as ih => rw [List.cons_append, run, ih, run, List.length_cons, Nat.add_right_comm, Nat.add_assoc]

/-- The siblings and the open blocks of a reading that has `base` in front of it on the ground. -/
def rebase (base nodes : List Node) : List OpenBlock → List Node × List OpenBlock
  | [] => (base ++ nodes, [])
  | o :: os =>
    (nodes, { o with before := (rebase base o.before os).1 } :: (rebase base o.before os).2)

def onto (base : List Node) (notes : List Note) (s : Reading) : Reading :=
  ⟨(rebase base s.nodes s.opened).1, (rebase base s.nodes s.opened).2, notes ++ s.notes⟩

theorem rebase_append (base nodes more : List Node) (os : List OpenBlock) :
    rebase base (nodes ++ more) os = ((rebase base nodes os).1 ++ more, (rebase base nodes os).2) := by
  cases os with
  | nil => simp only [rebase, List.append_assoc]
  | cons o os => rfl

theorem onto_push (base : List Node) (notes : List Note) (s : Reading) (n : Node) :
    (s.onto base notes).push n = (s.push n).onto base notes := by
  simp only [onto, push, rebase_append]

theorem onto_note (base : List Node) (notes : List Note) (s : Reading) (n : Note) :
    (s.onto base notes).note n = (s.note n).onto base notes := by
  simp only [onto, note, List.append_assoc]

theorem step_onto (base : List Node) (notes : List Note) (s : Reading) (number : Nat) (l : Line) :
    (s.onto base notes).step number l = (s.step number l).onto base notes := by
  obtain ⟨indent, text, kind⟩ := l
  cases kind with
  | skip => rfl
  | separator => exact onto_push base notes s _
  | head condition =>
    cases condition with
    | none => simp only [step, onto_push, onto_note]
    | some condition => rfl
  | endif =>
    obtain ⟨nodes, opened, more⟩ := s
    cases opened with
    | nil => exact onto_note base notes ⟨nodes, [], more⟩ _
    | cons o os =>
      simp only [step, onto, rebase, rebase_append]
      rfl
  | action command condition => exact onto_push base notes s _

theorem run_onto (base : List Node) (notes : List Note) (s : Reading) (number : Nat)
    (ls : List Line) :
    (s.onto base notes).run number ls = (s.run number ls).onto base notes := by
  induction ls generalizing s number with
  | nil => rfl
  | cons l ls ih => rw [run, run, step_onto, ih]

theorem unwind_rebase (base nodes : List Node) (notes more : List Note) (os : List OpenBlock) :
    unwind (rebase base nodes os).1 (notes ++ more) (rebase base nodes os).2 =
      (base ++ (unwind nodes more os).1, notes ++ (unwind nodes more os).2) := by
  induction os generalizing nodes more with
  | nil => rfl
  | cons o os ih =>
    have h := ih (o.before ++ [o.close nodes none, .error (unterminatedMessage o.line) o.line])
      (more ++ [.unterminated o.line])
    rw [rebase_append, ← List.append_assoc] at h
    exact h

theorem finish_onto (base : List Node) (notes : List Note) (s : Reading) :
    (s.onto base notes).finish = (base ++ s.finish.1, notes ++ s.finish.2) :=
  unwind_rebase base s.nodes notes s.notes s.opened

def inside (s : Reading) (base : List OpenBlock) : Reading :=
  { s with opened := s.opened ++ base }

theorem step_inside (s : Reading) (base : List OpenBlock) (number : Nat) (l : Line)
    (h : l.kind = .endif → 0 < s.opened.length) :
    (s.inside base).step number l = (s.step number l).inside base := by
  obtain ⟨indent, text, kind⟩ := l
  cases kind with
  | head condition => cases condition <;> rfl
  | endif =>
    obtain ⟨nodes, opened, notes⟩ := s
    cases opened with
    | nil => exact absurd (h rfl) (Nat.lt_irrefl 0)
    | cons o os => rfl
  | _ => rfl

theorem run_inside (s : Reading) (base : List OpenBlock) (number : Nat) (ls : List Line)
    (h : ∀ k, (ls[k]?).map Line.kind = some .endif →
      0 < (ls.take k).foldl Line.deepen s.opened.length) :
    (s.inside base).run number ls = (s.run number ls).inside base := by
  induction ls generalizing s number with
  | nil => rfl
  | cons l ls ih =>
    have hfirst : l.kind = .endif → 0 < s.opened.length := fun hl => h 0 (congrArg some hl)
    rw [run, run, step_inside s base number l hfirst]
    apply ih
    intro k hk
    rw [length_opened_step]
    exact h (k + 1) hk

theorem mem_headsAll_unwind {head : Head} {nodes : List Node} (notes : List Note)
    (os : List OpenBlock) (h : head ∈ Node.headsAll nodes) :
    head ∈ Node.headsAll (unwind nodes notes os).1 := by
  induction os generalizing nodes notes with
  | nil => exact h
  | cons o os ih =>
    apply ih
    rw [Node.gathers_heads.append]
    exact List.mem_append_right _ (List.mem_append_left _ (List.mem_cons_of_mem _ h))

theorem opened_eq_nil {s : Reading} (h : ∀ head ∈ Node.headsAll s.finish.1, head.isClosed) :
    s.opened = [] := by
  obtain ⟨nodes, opened, notes⟩ := s
  cases opened with
  | nil => rfl
  | cons o os =>
    let head : Head := ⟨Condition.ofText o.condition, o.condition, o.indent, o.line, none⟩
    have hmem : head ∈ Node.headsAll (o.before ++
        [o.close nodes none, .error (unterminatedMessage o.line) o.line]) := by
      rw [Node.gathers_heads.append]
      exact List.mem_append_right _ (List.mem_cons_self ..)
    exact absurd (h head (mem_headsAll_unwind _ os hmem)) Bool.false_ne_true

theorem eq_onto_start {s : Reading} (h : s.opened = []) : s = start.onto s.nodes s.notes := by
  obtain ⟨nodes, opened, notes⟩ := s
  cases h
  simp only [onto, start, rebase, List.append_nil]

theorem finish_of_opened_eq_nil {s : Reading} (h : s.opened = []) : s.finish = (s.nodes, s.notes) := by
  rw [finish, h, unwind]

end Reading

theorem finish_ofLines_append {as : List Line} (h : (Reading.ofLines as).opened = [])
    (bs : List Line) :
    (Reading.ofLines (as ++ bs)).finish.1 =
      (Reading.ofLines as).finish.1 ++
        Node.shift as.length (Reading.ofLines bs).finish.1 := by
  have hrest : Reading.ofLines (as ++ bs) = (Reading.ofLines as).run (as.length + 1) bs := by
    rw [Reading.ofLines, Reading.run_append, Nat.add_comm 1]
    rfl
  rw [hrest, Reading.eq_onto_start h, Reading.run_onto, Reading.finish_onto, finish_run_add,
    ← Reading.eq_onto_start h, Reading.finish_of_opened_eq_nil h]

theorem finish_ofLines_wrap {as : List Line} (h : (Reading.ofLines as).opened = [])
    (hstray : ∀ k, ¬ IsStray as k) {opening ending : Line} {condition : Text}
    (hopening : opening.kind = .head (some condition)) (hending : ending.kind = .endif) :
    (Reading.ofLines (opening :: (as ++ [ending]))).finish.1 =
      [OpenBlock.close ⟨condition, opening.indent, 1, []⟩
        (Node.shift 1 (Reading.ofLines as).finish.1) (some (as.length + 2))] := by
  -- The depth does not depend on the numbers of the lines.
  have hopened : ((Reading.start).run 2 as).opened = [] := by
    rw [← List.length_eq_zero_iff, Reading.length_opened_ofLines] at h
    rw [← List.length_eq_zero_iff, Reading.length_opened_run]
    exact h
  have hfirst : (Reading.start).step 1 opening =
      (Reading.start).inside [⟨condition, opening.indent, 1, []⟩] := by
    simp only [Reading.step, hopening]
    rfl
  have hnested : ∀ k, (as[k]?).map Line.kind = some .endif →
      0 < (as.take k).foldl Line.deepen (Reading.start).opened.length := by
    intro k hk
    exact Nat.pos_of_ne_zero fun hzero => hstray (k + 1) ⟨hk, hzero⟩
  have hinside := Reading.run_inside Reading.start [⟨condition, opening.indent, 1, []⟩] 2 as hnested
  rw [← finish_run_add 1 as, Reading.finish_of_opened_eq_nil hopened, Reading.ofLines, Reading.run,
    hfirst, Reading.run_append, hinside, Reading.run, Reading.run, Reading.inside, hopened]
  simp only [Reading.step, hending, List.nil_append, Reading.finish, Reading.unwind, Nat.add_comm 2]

/-- A script whose blocks are all closed reads the same in front of any other, which only gets later
line numbers; if besides none of its `endif`s is stray, it reads the same inside a block. -/
theorem parseLines_compose (as : List Text)
    (hclosed : ∀ head ∈ Node.headsAll (parseLines as), head.isClosed) :
    (∀ bs : List Text,
      parseLines (as ++ bs) = parseLines as ++ Node.shift as.length (parseLines bs)) ∧
    ∀ opening ending condition : Text,
      (∀ k, ¬ IsStray (as.map Line.ofText) k) →
      (Line.ofText opening).kind = .head (some condition) →
      (Line.ofText ending).kind = .endif →
      parseLines ([opening] ++ as ++ [ending]) =
        [.block {
          condition := Condition.ofText condition
          conditionRaw := condition
          indent := (Line.ofText opening).indent
          line := 1
          endLine := some (as.length + 2) } (Node.shift 1 (parseLines as))] := by
  have hopened : (Reading.ofLines (as.map Line.ofText)).opened = [] :=
    Reading.opened_eq_nil hclosed
  constructor
  · intro bs
    have h := finish_ofLines_append hopened (bs.map Line.ofText)
    rw [← List.map_append, List.length_map] at h
    exact h
  · intro opening ending condition hstray hopening hending
    have h := finish_ofLines_wrap hopened hstray hopening hending
    rw [List.length_map] at h
    have hlines : [opening] ++ as ++ [ending] = opening :: (as ++ [ending]) := rfl
    rw [parseLines, readLines, hlines, List.map_cons, List.map_append]
    exact h

theorem parseLines_compose_block :
    parseLines (["if [x]", " quit", "endif"] ++ ["endif", "if [y]", "standby"]) =
        parseLines ["if [x]", " quit", "endif"] ++
          Node.shift 3 (parseLines ["endif", "if [y]", "standby"]) ∧
      parseLines (["\tif [z]"] ++ ["if [x]", " quit", "endif"] ++ ["endif"]) =
        [.block ⟨Condition.ofText "z", "z", 4, 1, some 5⟩
          (Node.shift 1 (parseLines ["if [x]", " quit", "endif"]))] := by
  have h := parseLines_compose ["if [x]", " quit", "endif"] (by decide)
  have hstray : ∀ k, ¬ IsStray (List.map Line.ofText ["if [x]", " quit", "endif"]) k
    | 0 | 1 | 2 | 3 => by unfold IsStray; decide
    | _ + 4 => fun hk => by cases hk.1
  exact ⟨h.1 _, h.2 _ _ _ hstray (by decide) (by decide)⟩

end BattleScript.Script
