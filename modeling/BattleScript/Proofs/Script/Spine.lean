import BattleScript.Proofs.Script.Preorder

/-!
Blocks without `endif`. They can only be found along one spine: at each level of it such a block, and
the error that reports it, are the last of their siblings, and the next level is inside the block. All
other blocks are closed. Nodes are addressed by the indices that lead to them from the top.
-/
namespace BattleScript.Script
open Text

def Node.children : Node → List Node
  | .block _ children => children
  | _ => []

def nodeAt? (ns : List Node) : List Nat → Option Node
  | [] => none
  | [i] => ns[i]?
  | i :: j :: p => (ns[i]?).bind fun n => nodeAt? n.children (j :: p)

structure OpenBlocksNested (tree : List Node) : Prop where
  followed : ∀ p i head children, nodeAt? tree (p ++ [i]) = some (.block head children) →
    head.endLine = none → ∃ k : Nat, head.line = k ∧
      nodeAt? tree (p ++ [i + 1]) = some (.error (unterminatedMessage k) k) ∧
      nodeAt? tree (p ++ [i + 2]) = none
  nested : ∀ p q head children head' children', nodeAt? tree p = some (.block head children) →
    head.endLine = none → nodeAt? tree q = some (.block head' children') →
    head'.endLine = none → p <+: q ∨ q <+: p

def AllClosed (ns : List Node) : Prop :=
  ∀ head ∈ Node.headsAll ns, head.isClosed

theorem AllClosed.append {as bs : List Node} (ha : AllClosed as) (hb : AllClosed bs) :
    AllClosed (as ++ bs) := by
  intro head h
  rw [Node.gathers_heads.append] at h
  rcases List.mem_append.1 h with h | h
  · exact ha head h
  · exact hb head h

theorem allClosed_close (o : OpenBlock) {nodes : List Node} (number : Nat) (h : AllClosed nodes) :
    AllClosed [o.close nodes (some number)] := by
  intro head hhead
  simp only [OpenBlock.close, Node.headsAll, Node.heads, List.append_nil, List.mem_cons] at hhead
  rcases hhead with rfl | hhead
  · rfl
  · exact h head hhead

/-- The trees that reading can give. -/
inductive Spine : List Node → Prop
  | closed {ns : List Node} (h : AllClosed ns) : Spine ns
  | unterminated {before children : List Node} {head : Head} {k : Nat} (hbefore : AllClosed before)
      (hchildren : Spine children) (hend : head.endLine = none) (hline : head.line = k) :
      Spine (before ++ [.block head children, .error (unterminatedMessage k) k])

namespace Reading

def Settled (s : Reading) : Prop :=
  AllClosed s.nodes ∧ ∀ o ∈ s.opened, AllClosed o.before

theorem Settled.push {s : Reading} (h : s.Settled) {n : Node} (hn : AllClosed [n]) :
    (s.push n).Settled :=
  ⟨h.1.append hn, h.2⟩

theorem Settled.step {s : Reading} (h : s.Settled) (number : Nat) (l : Line) :
    (s.step number l).Settled := by
  obtain ⟨indent, text, kind⟩ := l
  cases kind with
  | skip => exact h
  | separator => exact h.push nofun
  | head condition =>
    cases condition with
    | none => exact h.push nofun
    | some condition => exact ⟨nofun, List.forall_mem_cons.2 h⟩
  | endif =>
    obtain ⟨nodes, opened, notes⟩ := s
    cases opened with
    | nil => exact h
    | cons o os =>
      obtain ⟨hnodes, hopened⟩ := h
      obtain ⟨ho, hos⟩ := List.forall_mem_cons.1 hopened
      exact ⟨ho.append (allClosed_close o number hnodes), hos⟩
  | action command condition => exact h.push nofun

theorem Settled.run {s : Reading} (h : s.Settled) (number : Nat) (ls : List Line) :
    (s.run number ls).Settled := by
  induction ls generalizing s number with
  | nil => exact h
  | cons l ls ih => exact ih (h.step number l) (number + 1)

theorem settled_ofLines (ls : List Line) : (ofLines ls).Settled := by
  have hstart : (start).Settled := ⟨nofun, nofun⟩
  exact hstart.run 1 ls

theorem spine_unwind {nodes : List Node} (notes : List Note) {os : List OpenBlock}
    (h : Spine nodes) (hos : ∀ o ∈ os, AllClosed o.before) : Spine (unwind nodes notes os).1 := by
  induction os generalizing nodes notes with
  | nil => exact h
  | cons o os ih =>
    obtain ⟨ho, hos⟩ := List.forall_mem_cons.1 hos
    exact ih _ (.unterminated ho h rfl rfl) hos

end Reading

theorem spine_parseLines (lines : List Text) : Spine (parseLines lines) := by
  obtain ⟨hnodes, hopened⟩ := Reading.settled_ofLines (lines.map Line.ofText)
  exact Reading.spine_unwind _ (.closed hnodes) hopened

theorem mem_headsAll_of_getElem? {ns : List Node} {n : Node} {i : Nat} {head : Head}
    (hi : ns[i]? = some n) (h : head ∈ Node.heads n) : head ∈ Node.headsAll ns := by
  induction ns generalizing i with
  | nil => cases hi
  | cons m ns ih =>
    cases i with
    | zero =>
      cases hi
      exact List.mem_append_left _ h
    | succ i => exact List.mem_append_right _ (ih hi)

theorem mem_headsAll_of_nodeAt? {ns : List Node} {p : List Nat} {head : Head}
    {children : List Node} (h : nodeAt? ns p = some (.block head children)) :
    head ∈ Node.headsAll ns := by
  induction p generalizing ns with
  | nil => cases h
  | cons i p ih =>
    cases p with
    | nil => exact mem_headsAll_of_getElem? h (List.mem_cons_self ..)
    | cons j p =>
      obtain ⟨n, hn, hinside⟩ := Option.bind_eq_some_iff.1 h
      apply mem_headsAll_of_getElem? hn
      cases n with
      | block head' children' => exact List.mem_cons_of_mem _ (ih hinside)
      | _ => cases ih hinside

theorem AllClosed.endLine_ne_none {ns : List Node} (h : AllClosed ns) {p : List Nat} {head : Head}
    {children : List Node} (hp : nodeAt? ns p = some (.block head children)) :
    head.endLine ≠ none := by
  intro hnone
  have hclosed := h head (mem_headsAll_of_nodeAt? hp)
  rw [Head.isClosed, hnone] at hclosed
  cases hclosed

theorem nodeAt?_append_left {as bs : List Node} {i : Nat} (h : i < as.length) (p : List Nat) :
    nodeAt? (as ++ bs) (i :: p) = nodeAt? as (i :: p) := by
  cases p with
  | nil => exact List.getElem?_append_left h
  | cons j p => rw [nodeAt?, nodeAt?, List.getElem?_append_left h]

theorem nodeAt?_append_right (as bs : List Node) (i : Nat) (p : List Nat) :
    nodeAt? (as ++ bs) ((as.length + i) :: p) = nodeAt? bs (i :: p) := by
  have hi : (as ++ bs)[as.length + i]? = bs[i]? := by
    rw [List.getElem?_append_right (Nat.le_add_right _ _), Nat.add_sub_cancel_left]
  cases p with
  | nil => exact hi
  | cons j p => rw [nodeAt?, nodeAt?, hi]

section Level
variable {before children : List Node} {head : Head} {k : Nat}

theorem nodeAt?_inside {p : List Nat} (hp : p ≠ []) :
    nodeAt? (before ++ [.block head children, .error (unterminatedMessage k) k])
      (before.length :: p) = nodeAt? children p := by
  have h := nodeAt?_append_right before [.block head children, .error (unterminatedMessage k) k] 0 p
  obtain ⟨j, p, rfl⟩ := List.exists_cons_of_ne_nil hp
  exact h

theorem address_of_open (hbefore : AllClosed before) {p : List Nat} {head' : Head}
    {children' : List Node}
    (hp : nodeAt? (before ++ [.block head children, .error (unterminatedMessage k) k]) p =
      some (.block head' children')) (hend : head'.endLine = none) :
    ∃ p', p = before.length :: p' ∧
      (p' = [] ∧ head' = head ∨ p' ≠ [] ∧ nodeAt? children p' = some (.block head' children')) := by
  cases p with
  | nil => cases hp
  | cons i p =>
    rcases Nat.lt_or_ge i before.length with hi | hi
    · rw [nodeAt?_append_left hi] at hp
      exact absurd hend (hbefore.endLine_ne_none hp)
    · obtain ⟨j, rfl⟩ := Nat.exists_eq_add_of_le hi
      rw [nodeAt?_append_right] at hp
      cases j with
      | zero =>
        refine ⟨p, rfl, ?_⟩
        cases p with
        | nil =>
          cases hp
          exact .inl ⟨rfl, rfl⟩
        | cons j p => exact .inr ⟨nofun, hp⟩
      -- Behind the block there is only its error, which has nothing inside.
      | succ j => rcases j with _ | j <;> rcases p with _ | ⟨_, _ | _⟩ <;> cases hp

end Level

theorem Spine.openBlocksNested {tree : List Node} (h : Spine tree) : OpenBlocksNested tree := by
  induction h with
  | closed h =>
    exact ⟨fun _ _ _ _ hp hend => absurd hend (h.endLine_ne_none hp),
      fun _ _ _ _ _ _ hp hend => absurd hend (h.endLine_ne_none hp)⟩
  | @unterminated before children head k hbefore _ _ hline ih =>
    refine ⟨fun p i head' children' hp hend => ?_, fun p q head' _ head'' _ hp hend hq hend' => ?_⟩
    · obtain ⟨p', hp', ⟨rfl, rfl⟩ | ⟨hne, hinside⟩⟩ := address_of_open hbefore hp hend
      · obtain ⟨rfl, hi⟩ := List.append_eq_cons_iff.1 hp' |>.resolve_right (by simp)
        cases hi
        refine ⟨k, hline, ?_, ?_⟩
        · exact nodeAt?_append_right before _ 1 []
        · exact nodeAt?_append_right before _ 2 []
      · cases p with
        | nil => exact absurd (List.cons.inj hp').2.symm hne
        | cons j p =>
          obtain ⟨rfl, rfl⟩ := List.cons.inj hp'
          obtain ⟨line, hl, herror, hlast⟩ := ih.followed p i head' children' hinside hend
          refine ⟨line, hl, ?_, ?_⟩
          · exact (nodeAt?_inside (by simp)).trans herror
          · exact (nodeAt?_inside (by simp)).trans hlast
    · obtain ⟨p', rfl, ⟨rfl, -⟩ | ⟨-, hp'⟩⟩ := address_of_open hbefore hp hend
      · obtain ⟨q', rfl, -⟩ := address_of_open hbefore hq hend'
        exact .inl (List.cons_prefix_cons.2 ⟨rfl, List.nil_prefix⟩)
      · obtain ⟨q', rfl, ⟨rfl, -⟩ | ⟨-, hq'⟩⟩ := address_of_open hbefore hq hend'
        · exact .inr (List.cons_prefix_cons.2 ⟨rfl, List.nil_prefix⟩)
        · rcases ih.nested p' q' head' _ head'' _ hp' hend hq' hend' with h | h
          · exact .inl (List.cons_prefix_cons.2 ⟨rfl, h⟩)
          · exact .inr (List.cons_prefix_cons.2 ⟨rfl, h⟩)

end BattleScript.Script
