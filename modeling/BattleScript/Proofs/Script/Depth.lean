import Mathlib.Order.Bounds.Basic
import BattleScript.Script.Line

/-!
The depth of lines. A head with a condition leads one level deeper, an `endif` one level up but never
above the ground. The `endif` of a head is the first one after it that comes back to the depth of the
head. All this is said by positions in the whole script, and again by recursion on the lines still to
come, which is the form that a run can be compared with.
-/
namespace BattleScript.Script

def Line.deepen (depth : Nat) (l : Line) : Nat :=
  match l.kind with
  | .head (some _) => depth + 1
  | .endif => depth - 1
  | _ => depth

def depthAfter (ls : List Line) (k : Nat) : Nat :=
  (ls.take k).foldl Line.deepen 0

def ReturnsTo (ls : List Line) (level m : Nat) : Prop :=
  (ls[m - 1]?).map Line.kind = some .endif ∧ depthAfter ls m = level

instance (ls : List Line) (level : Nat) : DecidablePred (ReturnsTo ls level) :=
  fun _ => inferInstanceAs (Decidable (_ ∧ _))

/-- The line of the `endif` that ends the block whose head is line `k`. -/
def endLine (ls : List Line) (k : Nat) : Option Nat :=
  (List.range' (k + 1) (ls.length - k)).find? fun m => ReturnsTo ls (depthAfter ls (k - 1)) m

def IsStray (ls : List Line) (k : Nat) : Prop :=
  (ls[k - 1]?).map Line.kind = some .endif ∧ depthAfter ls (k - 1) = 0

theorem depthAfter_succ {ls : List Line} {k : Nat} {l : Line} (h : ls[k]? = some l) :
    depthAfter ls (k + 1) = l.deepen (depthAfter ls k) := by
  simp only [depthAfter, List.take_add_one, h, Option.toList_some, List.foldl_append,
    List.foldl_cons, List.foldl_nil]

theorem ReturnsTo.le_length {ls : List Line} {level m : Nat} (h : ReturnsTo ls level m) :
    m ≤ ls.length := by
  obtain ⟨l, hl, -⟩ := Option.map_eq_some_iff.1 h.1
  have hm : m - 1 < ls.length := (List.getElem?_eq_some_iff.1 hl).1
  omega

theorem endLine_eq_some_iff {ls : List Line} {k m : Nat} :
    endLine ls k = some m ↔ IsLeast {m | k < m ∧ ReturnsTo ls (depthAfter ls (k - 1)) m} m := by
  rw [endLine, List.find?_range'_eq_some]
  simp only [decide_eq_true_eq, List.mem_range'_1, Bool.not_eq_true', decide_eq_false_iff_not]
  constructor
  · rintro ⟨hm, ⟨hk, -⟩, hleast⟩
    refine ⟨⟨hk, hm⟩, fun j hj => ?_⟩
    by_contra hlt
    exact hleast j hj.1 (not_le.1 hlt) hj.2
  · rintro ⟨⟨hk, hm⟩, hleast⟩
    have hlen := hm.le_length
    refine ⟨hm, ⟨hk, by omega⟩, fun j hj hlt hret => ?_⟩
    exact absurd (hleast ⟨hj, hret⟩) (not_le.2 hlt)

theorem endLine_eq_none_iff {ls : List Line} {k : Nat} :
    endLine ls k = none ↔ ∀ m, k < m → ¬ ReturnsTo ls (depthAfter ls (k - 1)) m := by
  rw [endLine, List.find?_range'_eq_none]
  simp only [Bool.not_eq_true', decide_eq_false_iff_not]
  constructor
  · intro h m hm hret
    have hlen := hret.le_length
    exact h m hm (by omega) hret
  · intro h m hm _
    exact h m hm

def closing (level depth number : Nat) : List Line → Option Nat
  | [] => none
  | l :: ls =>
    if l.kind = .endif ∧ l.deepen depth = level then some number
    else closing level (l.deepen depth) (number + 1) ls

/-- What the lines contribute one after another, where a line knows the depth that it is read at, its
number, and the `endif` that ends a block begun on it. -/
def sweep (f : Nat → Nat → Line → Option Nat → List β) (depth number : Nat) : List Line → List β
  | [] => []
  | l :: ls =>
    f depth number l (closing depth (l.deepen depth) (number + 1) ls) ++
      sweep f (l.deepen depth) (number + 1) ls

section Positions
variable (all : List Line)

theorem getElem?_of_drop {ls : List Line} {k : Nat} {l : Line} (h : all.drop k = l :: ls) :
    all[k]? = some l := by
  have h0 : (all.drop k)[0]? = some l := by rw [h]; rfl
  simpa only [List.getElem?_drop, Nat.add_zero] using h0

theorem drop_succ_of_drop {ls : List Line} {k : Nat} {l : Line} (h : all.drop k = l :: ls) :
    all.drop (k + 1) = ls := by
  rw [← List.drop_drop, h]
  rfl

theorem closing_eq_find (level : Nat) (ls : List Line) (k : Nat) (h : all.drop k = ls) :
    closing level (depthAfter all k) (k + 1) ls =
      (List.range' (k + 1) ls.length).find? fun m => ReturnsTo all level m := by
  induction ls generalizing k with
  | nil => rfl
  | cons l ls ih =>
    have hl := getElem?_of_drop all h
    have hd := depthAfter_succ hl
    have hret : ReturnsTo all level (k + 1) ↔
        l.kind = .endif ∧ l.deepen (depthAfter all k) = level := by
      simp only [ReturnsTo, Nat.add_sub_cancel, hl, hd, Option.map_some, Option.some.injEq]
    have hih := ih (k + 1) (drop_succ_of_drop all h)
    rw [hd] at hih
    simp only [closing, List.length_cons, List.range'_succ, List.find?_cons, hret]
    by_cases hc : l.kind = .endif ∧ l.deepen (depthAfter all k) = level
    · simp only [hc, and_self, if_true, decide_true]
    · simp only [hc, if_false, decide_false]
      exact hih

theorem closing_eq_endLine {ls : List Line} {k : Nat} {l : Line} (h : all.drop k = l :: ls) :
    closing (depthAfter all k) (l.deepen (depthAfter all k)) (k + 2) ls = endLine all (k + 1) := by
  have hd := drop_succ_of_drop all h
  have hlen : ls.length = all.length - (k + 1) := by rw [← hd, List.length_drop]
  rw [← depthAfter_succ (getElem?_of_drop all h), closing_eq_find all _ ls (k + 1) hd, hlen]
  rfl

theorem sweep_drop (f : Nat → Nat → Line → Option Nat → List β) (ls : List Line) (k : Nat)
    (h : all.drop k = ls) :
    sweep f (depthAfter all k) (k + 1) ls =
      (ls.zipIdx (k + 1)).flatMap fun p =>
        f (depthAfter all (p.2 - 1)) p.2 p.1 (endLine all p.2) := by
  induction ls generalizing k with
  | nil => rfl
  | cons l ls ih =>
    have hih := ih (k + 1) (drop_succ_of_drop all h)
    rw [depthAfter_succ (getElem?_of_drop all h)] at hih
    rw [sweep, closing_eq_endLine all h, hih]
    rfl

end Positions

theorem sweep_eq_flatMap (f : Nat → Nat → Line → Option Nat → List β) (ls : List Line) :
    sweep f 0 1 ls =
      (ls.zipIdx 1).flatMap fun p => f (depthAfter ls (p.2 - 1)) p.2 p.1 (endLine ls p.2) :=
  sweep_drop ls f ls 0 rfl

end BattleScript.Script
