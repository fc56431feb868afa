import BattleScript.Proofs.Files.Writing

/-!
Directories that writing makes. They are made on the way to a path only, at the places that the first
names of the path stand for, and none is taken away.
-/
namespace BattleScript.Files

def Path.LeadsTo (q p : Path) : Prop :=
  q.anchor = p.anchor ∧ q.parts <+: p.parts

theorem Path.LeadsTo.of_eq {q p : Path} (h : q = p) : q.LeadsTo p :=
  h ▸ ⟨rfl, List.prefix_rfl⟩

theorem Path.LeadsTo.of_parent {q p : Path} (h : q.LeadsTo p.parent) : q.LeadsTo p :=
  ⟨h.1, h.2.trans (List.dropLast_prefix p.parts)⟩

namespace Tree

/-- The tree `t'` keeps the directories of `t` and its files outside `touched`. The directories that it
has more are at the places of paths in `made`. -/
structure Grows (touched : List Place) (made : Path → Prop) (t t' : Tree) : Prop
    extends Keeps touched t t' where
  added : ∀ {place}, t'.at? place = some .directory →
    t.at? place = some .directory ∨ ∃ q, made q ∧ place = t.location q

namespace Grows
variable {touched touched' : List Place} {made made' : Path → Prop} {t u v : Tree}

theorem refl (touched : List Place) (made : Path → Prop) (t : Tree) : Grows touched made t t :=
  ⟨.refl touched t, .inl⟩

theorem trans (h : Grows touched made t u) (h' : Grows touched made u v) : Grows touched made t v := by
  refine ⟨h.toKeeps.trans h'.toKeeps, fun {place} hv => ?_⟩
  rcases h'.added hv with hu | ⟨q, hq, hplace⟩
  · exact h.added hu
  · exact .inr ⟨q, hq, hplace.trans (h.location q)⟩

theorem mono (h : Grows touched made t u) (htouched : touched ⊆ touched')
    (hmade : ∀ q, made q → made' q) : Grows touched' made' t u :=
  ⟨h.toKeeps.mono htouched, fun hu => (h.added hu).imp_right fun ⟨q, hq, hplace⟩ => ⟨q, hmade q hq, hplace⟩⟩

end Grows

theorem grows_bind {α β : Type} {touched : List Place} {made : Path → Prop} {w : Write α}
    {k : α → Write β} {t : Tree} (hw : Grows touched made t (left w t))
    (hk : ∀ a u, Grows touched made u (left (k a) u)) : Grows touched made t (left (w >>= k) t) := by
  obtain ⟨a, hleft⟩ | hleft := left_bind_cases w k t
  · rw [hleft]
    exact hw.trans (hk a _)
  · rw [hleft]
    exact hw

theorem SameEntries.grows {t u : Tree} (h : SameEntries t u) (made : Path → Prop) :
    Grows [] made t u :=
  ⟨h.keeps, fun hdirectory => .inl ((h.at_eq _).symm.trans hdirectory)⟩

theorem Filled.grows {place : Place} {content : Bytes} {t u : Tree} (h : Filled place content t u)
    (hplace : t.at? place ≠ some .directory) (made : Path → Prop) : Grows [place] made t u := by
  refine ⟨h.keeps hplace, fun hdirectory => .inl ?_⟩
  rw [h.at_eq] at hdirectory
  split_ifs at hdirectory
  · cases hdirectory
  · exact hdirectory

theorem grows_makeDirectory (p : Path) (t : Tree) :
    Grows [] (· = p) t (left (makeDirectory p) t) := by
  obtain ⟨new, hplace, hat, hrun⟩ | ⟨f, u, hrun, hsame, -⟩ := makeDirectory_cases p t
  · rw [left_of_ok hrun]
    refine ⟨.put_directory hat, fun {place} hdirectory => ?_⟩
    rw [at?_put _ (ne_nil_of_not_directory (by rw [hat]; nofun))] at hdirectory
    split_ifs at hdirectory with heq
    · exact .inr ⟨p, rfl, heq.symm.trans (eq_location_of_place hplace)⟩
    · exact .inl hdirectory
  · rw [left_of_error hrun]
    exact hsame.grows _

theorem grows_ensureDirectory (p : Path) (t : Tree) :
    Grows [] (· = p) t (left (ensureDirectory p) t) := by
  rw [left_ensureDirectory]
  exact grows_makeDirectory p t

theorem grows_ensureDirectories (depth : Nat) (p : Path) (t : Tree) :
    Grows [] (·.LeadsTo p) t (left (ensureDirectories depth p) t) := by
  induction depth generalizing p t with
  | zero => exact (grows_ensureDirectory p t).mono (List.nil_subset _) fun _ => .of_eq
  | succ depth ih =>
    obtain hleft | hleft := left_ensureDirectories_cases depth p t
    · rw [hleft]
      exact (grows_makeDirectory p t).mono (List.nil_subset _) fun _ => .of_eq
    · rw [hleft]
      have hmade : Grows [] (·.LeadsTo p) t (left (makeDirectory p) t) :=
        (grows_makeDirectory p t).mono (List.nil_subset _) fun _ => .of_eq
      exact hmade.trans (grows_bind ((ih p.parent _).mono (List.nil_subset _) fun _ => .of_parent)
        fun _ u => (grows_ensureDirectory p u).mono (List.nil_subset _) fun _ => .of_eq)

end Tree
end BattleScript.Files
