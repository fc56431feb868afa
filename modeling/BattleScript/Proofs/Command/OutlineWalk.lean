import Mathlib.Data.List.Infix
import BattleScript.Command.Run
import BattleScript.Proofs.Script.Preorder

/-!
Outlines from a walk. The walk through a tree gives each node with its depth, and the outline is built from
that alone: one address is kept for each depth, and a label goes below the address that stands at its depth.
The addresses are always those along the last branches, so none is missing where a walk needs it, and the
outline has the shape of the tree.
-/
namespace BattleScript.Command
open Text Script

namespace Branch

def addAt? : Nat → Text → List Branch → Option (List Branch)
  | 0, label, bs => some (bs ++ [.node label []])
  | depth + 1, label, bs =>
    match bs.getLast? with
    | some (.node l children) =>
      (addAt? depth label children).map fun children => bs.dropLast ++ [.node l children]
    | none => none

def addAll? (bs : List Branch) : List (Nat × Text) → Option (List Branch)
  | [] => some bs
  | (depth, label) :: labels =>
    match addAt? depth label bs with
    | some bs => addAll? bs labels
    | none => none

/-- The outline of labels with their depths, each label below the last one of the depth above it. -/
def ofDepths? (labels : List (Nat × Text)) : Option (List Branch) :=
  addAll? [] labels

end Branch

/-- The address of the branch that is reached by always going to the last branch. -/
inductive LastPath : List Branch → List Nat → Prop
  | nil : LastPath [] []
  | snoc (before : List Branch) (label : Text) {children : List Branch} {address : List Nat}
      (h : LastPath children address) : LastPath (before ++ [.node label children]) (before.length :: address)

theorem LastPath.add {bs : List Branch} {address : List Nat} (h : LastPath bs address) (label : Text)
    {depth : Nat} (hdepth : depth ≤ address.length) :
    ∃ bs' k, Branch.addBelow? label (address.take depth) bs = some (bs', k) ∧
      Branch.addAt? depth label bs = some bs' ∧ LastPath bs' (address.take depth ++ [k]) := by
  induction h generalizing depth with
  | nil =>
    obtain rfl : depth = 0 := Nat.le_zero.1 hdepth
    exact ⟨[.node label []], 0, rfl, rfl, .snoc [] label .nil⟩
  | @snoc before l children address h ih =>
    cases depth with
    | zero => exact ⟨_, _, rfl, rfl, .snoc _ label .nil⟩
    | succ depth =>
      obtain ⟨children', k, hbelow, hat, hpath⟩ := ih (Nat.le_of_succ_le_succ hdepth)
      refine ⟨before ++ [.node l children'], k, ?_, ?_, .snoc before l hpath⟩
      · simp [Branch.addBelow?, hbelow]
      · simp [Branch.addAt?, hat]

theorem LastPath.addAt?_eq_none {bs : List Branch} {address : List Nat} (h : LastPath bs address)
    (label : Text) {depth : Nat} (hdepth : address.length < depth) : Branch.addAt? depth label bs = none := by
  induction h generalizing depth with
  | nil =>
    obtain ⟨depth, rfl⟩ := Nat.exists_eq_succ_of_ne_zero (Nat.ne_of_gt hdepth)
    rfl
  | @snoc before l children address h ih =>
    obtain ⟨depth, rfl⟩ := Nat.exists_eq_succ_of_ne_zero (Nat.ne_zero_of_lt hdepth)
    have hnone := ih (Nat.lt_of_succ_lt_succ hdepth)
    simp [Branch.addAt?, hnone]

namespace Building

def Tracks (b : Building) : Prop :=
  ∃ address, LastPath b.branches address ∧ b.addresses = address.inits

theorem tracks_start : start.Tracks :=
  ⟨[], .nil, rfl⟩

theorem Tracks.add? {b : Building} (h : b.Tracks) (depth : Nat) (label : Text) :
    (∃ b', b.add? depth label = some b' ∧ Branch.addAt? depth label b.branches = some b'.branches ∧
        b'.Tracks) ∨
      b.add? depth label = none ∧ Branch.addAt? depth label b.branches = none := by
  obtain ⟨address, hpath, haddresses⟩ := h
  have hkept : b.addresses.take (depth + 1) = (address.take depth).inits := by
    rw [haddresses, List.take_inits]
  rcases Nat.lt_or_ge address.length depth with hdepth | hdepth
  · right
    have hnone : (address.take depth).inits[depth]? = none := by
      rw [List.getElem?_eq_none_iff, List.length_inits, List.length_take]
      omega
    refine ⟨?_, hpath.addAt?_eq_none label hdepth⟩
    simp only [Building.add?, hkept, hnone]
  · left
    obtain ⟨bs, k, hbelow, hat, hpath'⟩ := hpath.add label hdepth
    have hlast : (address.take depth).inits[depth]? = some (address.take depth) := by
      rw [List.getElem?_eq_getElem (by simp; omega), List.getElem_inits, List.take_take, min_self]
    refine ⟨⟨bs, (address.take depth).inits ++ [address.take depth ++ [k]]⟩, ?_, hat,
      address.take depth ++ [k], hpath', ?_⟩
    · simp only [Building.add?, hkept, hlast, hbelow, Option.map_some]
    · simp [List.inits_append]

theorem Tracks.addAll? {b : Building} (h : b.Tracks) (labels : List (Nat × Text)) :
    (b.addAll? labels).map branches = Branch.addAll? b.branches labels := by
  induction labels generalizing b with
  | nil => rfl
  | cons e labels ih =>
    obtain ⟨depth, label⟩ := e
    rw [Building.addAll?, Branch.addAll?]
    rcases h.add? depth label with ⟨b', hadd, hat, htracks⟩ | ⟨hadd, hat⟩
    · rw [hadd, hat]
      exact ih htracks
    · rw [hadd, hat]
      rfl

theorem branches_start_addAll? (labels : List (Nat × Text)) :
    (start.addAll? labels).map branches = Branch.ofDepths? labels :=
  tracks_start.addAll? labels

end Building

mutual

def outline (label : Node → Text) : Node → Branch
  | .block head children => .node (label (.block head children)) (outlineAll label children)
  | n => .node (label n) []

def outlineAll (label : Node → Text) : List Node → List Branch
  | [] => []
  | n :: ns => outline label n :: outlineAll label ns

end

def labelled (label : Node → Text) (walk : List (Nat × Node)) : List (Nat × Text) :=
  walk.map fun e => (e.1, label e.2)

theorem addAll?_deeper (before : List Branch) (l : Text) (children : List Branch)
    (labels : List (Nat × Text)) :
    Branch.addAll? (before ++ [.node l children]) (labels.map fun e => (e.1 + 1, e.2)) =
      (Branch.addAll? children labels).map fun children => before ++ [.node l children] := by
  induction labels generalizing children with
  | nil => rfl
  | cons e labels ih =>
    obtain ⟨depth, label⟩ := e
    have hat : Branch.addAt? (depth + 1) label (before ++ [.node l children]) =
        (Branch.addAt? depth label children).map fun children => before ++ [.node l children] := by
      simp [Branch.addAt?]
    rw [List.map_cons, Branch.addAll?, Branch.addAll?, hat]
    cases Branch.addAt? depth label children with
    | none => rfl
    | some children => exact ih children

theorem branch_addAll?_append (bs : List Branch) (as cs : List (Nat × Text)) :
    Branch.addAll? bs (as ++ cs) = (Branch.addAll? bs as).bind fun bs => Branch.addAll? bs cs := by
  induction as generalizing bs with
  | nil => rfl
  | cons e as ih =>
    obtain ⟨depth, label⟩ := e
    rw [List.cons_append, Branch.addAll?, Branch.addAll?]
    cases Branch.addAt? depth label bs with
    | none => rfl
    | some bs => exact ih bs

mutual

theorem walk_succ (depth : Nat) : ∀ n : Node,
    Node.walk (depth + 1) n = (Node.walk depth n).map fun e => (e.1 + 1, e.2)
  | .separator _ => rfl
  | .action _ => rfl
  | .error _ _ => rfl
  | .block head children => by
    rw [Node.walk, Node.walk, List.map_cons, walkAll_succ (depth + 1) children]

theorem walkAll_succ (depth : Nat) : ∀ ns : List Node,
    Node.walkAll (depth + 1) ns = (Node.walkAll depth ns).map fun e => (e.1 + 1, e.2)
  | [] => rfl
  | n :: ns => by
    rw [Node.walkAll, Node.walkAll, List.map_append, walk_succ depth n, walkAll_succ depth ns]

end

mutual

theorem addAll?_walk (label : Node → Text) (bs : List Branch) : ∀ n : Node,
    Branch.addAll? bs (labelled label (Node.walk 0 n)) = some (bs ++ [outline label n])
  | .separator _ => rfl
  | .action _ => rfl
  | .error _ _ => rfl
  | .block head children => by
    have hinside := addAll?_walkAll label [] children
    have hdeeper := addAll?_deeper bs (label (.block head children)) []
      (labelled label (Node.walkAll 0 children))
    rw [hinside] at hdeeper
    have hshift : labelled label (Node.walkAll 1 children) =
        (labelled label (Node.walkAll 0 children)).map fun e => (e.1 + 1, e.2) := by
      simp only [labelled, walkAll_succ 0 children, List.map_map, Function.comp_def]
    rw [← hshift] at hdeeper
    exact hdeeper

theorem addAll?_walkAll (label : Node → Text) (bs : List Branch) : ∀ ns : List Node,
    Branch.addAll? bs (labelled label (Node.walkAll 0 ns)) = some (bs ++ outlineAll label ns)
  | [] => by rw [outlineAll, List.append_nil]; rfl
  | n :: ns => by
    have hn := addAll?_walk label bs n
    have hns := addAll?_walkAll label (bs ++ [outline label n]) ns
    rw [Node.walkAll, labelled, List.map_append, branch_addAll?_append, ← labelled, hn, Option.bind_some,
      ← labelled, hns, outlineAll, List.append_assoc]
    rfl

end

theorem ofDepths?_walkAll (label : Node → Text) (nodes : List Node) :
    Branch.ofDepths? (labelled label (Node.walkAll 0 nodes)) = some (outlineAll label nodes) :=
  addAll?_walkAll label [] nodes

theorem exists_building {labels : List (Nat × Text)} {bs : List Branch}
    (h : Branch.ofDepths? labels = some bs) :
    ∃ b, Building.start.addAll? labels = some b ∧ b.branches = bs := by
  have hmap := Building.branches_start_addAll? labels
  rw [h] at hmap
  exact Option.map_eq_some_iff.1 hmap

theorem exists_ofDepths?_take {labels : List (Nat × Text)} {bs : List Branch}
    (h : Branch.ofDepths? labels = some bs) (k : Nat) :
    ∃ bs', Branch.ofDepths? (labels.take k) = some bs' := by
  rw [← List.take_append_drop k labels, Branch.ofDepths?, branch_addAll?_append] at h
  obtain ⟨bs', hbs', -⟩ := Option.bind_eq_some_iff.1 h
  exact ⟨bs', hbs'⟩

def describedLabel (names : Option Names.Resolver) (n : Node) : Text :=
  match English.describeNode names n with
  | .ok text => shown (stepLabel ⟨0, n, text⟩)
  | .error _ => []

theorem labels_describeSteps {names : Option Names.Resolver} {walk : List (Nat × Node)}
    {steps : List English.Step} (h : English.describeSteps names walk = .ok steps) :
    steps.map (fun s => (s.depth, shown (stepLabel s))) = labelled (describedLabel names) walk := by
  induction walk generalizing steps with
  | nil =>
    cases h
    rfl
  | cons e walk ih =>
    obtain ⟨depth, node⟩ := e
    rw [English.describeSteps] at h
    cases htext : English.describeNode names node with
    | error e =>
      rw [htext] at h
      cases h
    | ok text =>
      cases hrest : English.describeSteps names walk with
      | error e =>
        rw [htext, hrest] at h
        cases h
      | ok rest =>
        rw [htext, hrest] at h
        cases h
        have hlabel : describedLabel names node = shown (stepLabel ⟨depth, node, text⟩) := by
          rw [describedLabel, htext]
          rfl
        rw [List.map_cons, ih hrest, labelled, labelled, List.map_cons, hlabel]

mutual

theorem nodeBranch_eq_outline : ∀ n : Node, nodeBranch n = outline (fun n => shown (nodeLabel n)) n
  | .separator _ => rfl
  | .action _ => rfl
  | .error _ _ => rfl
  | .block head children => by
    rw [nodeBranch, outline, nodeBranches_eq_outlineAll children]
    rfl

theorem nodeBranches_eq_outlineAll : ∀ ns : List Node,
    nodeBranches ns = outlineAll (fun n => shown (nodeLabel n)) ns
  | [] => rfl
  | n :: ns => by
    rw [nodeBranches, outlineAll, nodeBranch_eq_outline n, nodeBranches_eq_outlineAll ns]

end

/-- Adding labels by their depths is done as well with one address for each depth. Along a walk no address
is missing, however far it has gone and whatever the labels are, and at its end the outline has the shape of
the tree. So the outline of the descriptions of a script differs from that of its nodes in the labels only. -/
theorem outline_walk (nodes : List Node) :
    (∀ labels, (Building.start.addAll? labels).map Building.branches = Branch.ofDepths? labels) ∧
    (∀ label k, ∃ b, Building.start.addAll? (labelled label ((Node.walkAll 0 nodes).take k)) = some b) ∧
    (∀ label, ∃ b, Building.start.addAll? (labelled label (Node.walkAll 0 nodes)) = some b ∧
      b.branches = outlineAll label nodes) ∧
    (∀ names steps, English.tell names nodes = .ok steps →
      ∃ b, Building.start.addAll? (steps.map fun s => (s.depth, shown (stepLabel s))) = some b ∧
        b.branches = outlineAll (describedLabel names) nodes) ∧
    nodeBranches nodes = outlineAll (fun n => shown (nodeLabel n)) nodes := by
  refine ⟨Building.branches_start_addAll?, fun label k => ?_, fun label => ?_, fun names steps h => ?_,
    nodeBranches_eq_outlineAll nodes⟩
  · obtain ⟨bs, hbs⟩ := exists_ofDepths?_take (ofDepths?_walkAll label nodes) k
    rw [labelled, ← List.map_take] at hbs
    obtain ⟨b, hb, -⟩ := exists_building hbs
    exact ⟨b, hb⟩
  · exact exists_building (ofDepths?_walkAll label nodes)
  · rw [labels_describeSteps h]
    exact exists_building (ofDepths?_walkAll (describedLabel names) nodes)

theorem outline_walk_back :
    let head : Head := ⟨⟨[], []⟩, [], 0, 1, none⟩
    let nodes := [Node.block head [.block head [.block head [.error "x" 4]], .separator 0], .separator 0]
    ∃ steps, English.tell none nodes = .ok steps ∧ steps.map English.Step.depth = [0, 1, 2, 3, 1, 0] ∧
      ∃ b, Building.start.addAll? (steps.map fun s => (s.depth, shown (stepLabel s))) = some b ∧
        b.branches = outlineAll (describedLabel none) nodes := by
  intro head nodes
  have hsteps : ∃ steps, English.tell none nodes = .ok steps ∧
      steps.map English.Step.depth = [0, 1, 2, 3, 1, 0] := ⟨_, rfl, rfl⟩
  obtain ⟨steps, htell, hdepths⟩ := hsteps
  exact ⟨steps, htell, hdepths, (outline_walk nodes).2.2.2.1 none steps htell⟩

end BattleScript.Command
