import Mathlib.Tactic.SplitIfs
import BattleScript.Files.Tree

/-!
What writing does to a tree of files. Whether it succeeds or fails, the directories stay, and so do the
files outside the places that are written to. A path therefore stands for the same place before and
after, if it stands for one before. A call that is refused leaves the tree as it was; a write that is
broken off leaves a beginning of what was to be written.
-/
namespace BattleScript.Files

def Cause.BreaksOff (cause : Cause) : Prop :=
  ∃ why, cause = .brokenOff why

namespace Tree
open Text

theorem lookup_cons (e : Place × Entry) (es : List (Place × Entry)) (q : Place) :
    lookup (e :: es) q = if e.1 = q then some e.2 else lookup es q := by
  by_cases h : e.1 = q <;> simp [lookup, h]

theorem lookup_insert (entries : List (Place × Entry)) (place q : Place) (entry : Entry) :
    lookup (insert entries place entry) q = if place = q then some entry else lookup entries q := by
  induction entries with
  | nil => exact lookup_cons (place, entry) [] q
  | cons e es ih =>
    by_cases he : e.1 = place
    · rw [insert, if_pos he, lookup_cons, lookup_cons, he]
      split_ifs <;> rfl
    · rw [insert, if_neg he, lookup_cons, lookup_cons, ih]
      split_ifs with hq hplace
      · exact absurd (hq.trans hplace.symm) he
      · rfl
      · rfl
      · rfl

theorem at?_put (t : Tree) {place : Place} (hplace : place ≠ []) (entry : Entry) (q : Place) :
    (t.put place entry).at? q = if place = q then some entry else t.at? q := by
  by_cases hq : q = []
  · rw [at?, if_pos hq, if_neg (fun h => hplace (h.trans hq)), at?, if_pos hq]
  · rw [at?, if_neg hq, put, lookup_insert, at?, if_neg hq]

theorem ne_nil_of_not_directory {t : Tree} {place : Place} (h : t.at? place ≠ some .directory) :
    place ≠ [] := by
  rintro rfl
  exact h rfl

/-- The tree `t'` has the directories of `t`, and the same files outside `touched`. -/
structure Keeps (touched : List Place) (t t' : Tree) : Prop where
  here : t'.here = t.here
  directory : ∀ {place}, t.at? place = some .directory → t'.at? place = some .directory
  file : ∀ {place}, place ∉ touched → ∀ content,
    t'.at? place = some (.file content) ↔ t.at? place = some (.file content)

namespace Keeps

theorem refl (touched : List Place) (t : Tree) : Keeps touched t t :=
  ⟨rfl, id, fun _ _ => Iff.rfl⟩

theorem trans {touched : List Place} {t u v : Tree} (h : Keeps touched t u) (h' : Keeps touched u v) :
    Keeps touched t v :=
  ⟨h'.here.trans h.here, fun hd => h'.directory (h.directory hd),
    fun hplace content => (h'.file hplace content).trans (h.file hplace content)⟩

theorem mono {touched touched' : List Place} {t u : Tree} (h : Keeps touched t u)
    (hsub : touched ⊆ touched') : Keeps touched' t u :=
  ⟨h.here, h.directory, fun hplace => h.file fun hmem => hplace (hsub hmem)⟩

theorem put_directory {t : Tree} {place : Place} (h : t.at? place = none) :
    Keeps [] t (t.advance.put place .directory) := by
  have hne : place ≠ [] := ne_nil_of_not_directory (by rw [h]; nofun)
  refine ⟨rfl, fun {q} hq => ?_, fun {q} _ content => ?_⟩
  · rw [at?_put _ hne]
    split_ifs
    · rfl
    · exact hq
  · rw [at?_put _ hne]
    split_ifs with heq
    · rw [← heq, h]
      simp
    · rfl

end Keeps

structure SameEntries (t u : Tree) : Prop where
  here : u.here = t.here
  entries : u.entries = t.entries

structure Filled (place : Place) (content : Bytes) (t u : Tree) : Prop where
  here : u.here = t.here
  at_eq : ∀ q, u.at? q = if place = q then some (.file content) else t.at? q

section
variable {t u v : Tree} {place : Place} {content : Bytes}

theorem SameEntries.refl (t : Tree) : SameEntries t t := ⟨rfl, rfl⟩

theorem sameEntries_advance (t : Tree) : SameEntries t t.advance := ⟨rfl, rfl⟩

theorem SameEntries.at_eq (h : SameEntries t u) (q : Place) : u.at? q = t.at? q := by
  rw [at?, h.entries, at?]

theorem SameEntries.keeps (h : SameEntries t u) : Keeps [] t u :=
  ⟨h.here, fun hq => (h.at_eq _).trans hq, fun _ _ => by rw [h.at_eq]⟩

theorem filled_put (hplace : place ≠ []) (content : Bytes) :
    Filled place content t (t.advance.put place (.file content)) :=
  ⟨rfl, at?_put t.advance hplace (.file content)⟩

theorem Filled.put (h : Filled place content t u) (hplace : place ≠ []) (content' : Bytes) :
    Filled place content' t (u.advance.put place (.file content')) := by
  refine ⟨h.here, fun q => ?_⟩
  rw [(filled_put hplace content').at_eq, h.at_eq]
  split_ifs <;> rfl

theorem Filled.keeps (h : Filled place content t u) (hplace : t.at? place ≠ some .directory) :
    Keeps [place] t u := by
  refine ⟨h.here, fun {q} hq => ?_, fun {q} hnot _ => ?_⟩
  · rw [h.at_eq, if_neg ?_]
    · exact hq
    · rintro rfl
      exact hplace hq
  · rw [h.at_eq, if_neg fun heq => hnot (List.mem_singleton.2 heq.symm)]

end

def walk (place : Place) : List Text → Place
  | [] => place
  | p :: ps => if p = ['.', '.'] then walk place.dropLast ps else walk (place ++ [p]) ps

def location (t : Tree) (p : Path) : Place :=
  walk (if p.anchor = [] then t.here.parts else []) p.parts

theorem follow_cons_eq_ok {t : Tree} {place q : Place} {p : Text} {ps : List Text}
    (h : t.follow place (p :: ps) = .ok q) :
    t.at? place = some .directory ∧
      (p = ['.', '.'] ∧ t.follow place.dropLast ps = .ok q ∨
        p ≠ ['.', '.'] ∧ ¬ 255 < (Utf8.encode p).length ∧ t.follow (place ++ [p]) ps = .ok q) := by
  rw [follow] at h
  split at h
  · cases h
  · cases h
  · rename_i hat
    split_ifs at h with hp hlength
    · exact ⟨hat, .inl ⟨hp, h⟩⟩
    · exact ⟨hat, .inr ⟨hp, hlength, h⟩⟩

theorem eq_walk_of_follow {t : Tree} {place q : Place} {names : List Text}
    (h : t.follow place names = .ok q) : q = walk place names := by
  induction names generalizing place with
  | nil =>
    cases h
    rfl
  | cons p ps ih =>
    obtain ⟨-, ⟨hp, h⟩ | ⟨hp, -, h⟩⟩ := follow_cons_eq_ok h
    · rw [walk, if_pos hp]
      exact ih h
    · rw [walk, if_neg hp]
      exact ih h

theorem Keeps.follow {touched : List Place} {t t' : Tree} (hkeeps : Keeps touched t t')
    {place q : Place} {names : List Text} (h : t.follow place names = .ok q) :
    t'.follow place names = .ok q := by
  induction names generalizing place with
  | nil => exact h
  | cons p ps ih =>
    -- Only directories are passed on the way, and these are kept.
    obtain ⟨hat, ⟨hp, h⟩ | ⟨hp, hlength, h⟩⟩ := follow_cons_eq_ok h
    · rw [Tree.follow, hkeeps.directory hat]
      simp only [if_pos hp]
      exact ih h
    · rw [Tree.follow, hkeeps.directory hat]
      simp only [if_neg hp, if_neg hlength]
      exact ih h

theorem eq_location_of_place {t : Tree} {p : Path} {q : Place} (h : t.place p = .ok q) :
    q = t.location p := by
  rw [place] at h
  split_ifs at h with hnull hsize hanchor
  · rw [location, if_pos hanchor]
    exact eq_walk_of_follow h
  · rw [location, if_neg hanchor]
    exact eq_walk_of_follow h

theorem Keeps.place {touched : List Place} {t t' : Tree} (hkeeps : Keeps touched t t') {p : Path}
    {q : Place} (h : t.place p = .ok q) : t'.place p = .ok q := by
  rw [Tree.place] at h ⊢
  split_ifs at h ⊢ with hnull hsize hanchor
  · rw [hkeeps.here]
    exact hkeeps.follow h
  · exact hkeeps.follow h

theorem Keeps.location {touched : List Place} {t t' : Tree} (hkeeps : Keeps touched t t') (p : Path) :
    t'.location p = t.location p := by
  rw [Tree.location, hkeeps.here, Tree.location]

theorem read_eq_ok_iff {t : Tree} {p : Path} {content : Bytes} :
    t.read p = .ok content ↔ ∃ q, t.place p = .ok q ∧ t.at? q = some (.file content) := by
  unfold read
  constructor
  · intro h
    split at h
    · cases h
    · rename_i q hplace
      split at h
      · cases h
      · cases h
      · rename_i hat
        cases h
        exact ⟨q, hplace, hat⟩
  · rintro ⟨q, hplace, hat⟩
    simp only [hplace, hat]

theorem follow_eq_error {t : Tree} {place : Place} {names : List Text} {cause : Cause}
    (h : t.follow place names = .error cause) :
    cause = .notFound ∨ cause = .notDirectory ∨ cause = .nameTooLong := by
  induction names generalizing place with
  | nil => cases h
  | cons p ps ih =>
    unfold follow at h
    split at h
    · exact .inl (Except.error.inj h).symm
    · exact .inr (.inl (Except.error.inj h).symm)
    · split_ifs at h
      · exact ih h
      · exact .inr (.inr (Except.error.inj h).symm)
      · exact ih h

theorem place_eq_error {t : Tree} {p : Path} {cause : Cause} (h : t.place p = .error cause) :
    cause = .nullCharacter ∧ (∃ part ∈ p.parts, '\x00' ∈ part) ∨
      cause = .notFound ∨ cause = .notDirectory ∨ cause = .nameTooLong := by
  unfold place at h
  split_ifs at h with hnull
  · obtain ⟨part, hpart, hcontains⟩ := List.any_eq_true.1 hnull
    exact .inl ⟨(Except.error.inj h).symm, part, hpart, List.contains_iff_mem.1 hcontains⟩
  · exact .inr (.inr (.inr (Except.error.inj h).symm))
  · exact .inr (follow_eq_error h)
  · exact .inr (follow_eq_error h)

theorem not_breaksOff_of_place {t : Tree} {p : Path} {cause : Cause} (h : t.place p = .error cause) :
    ¬ cause.BreaksOff := by
  obtain ⟨rfl, -⟩ | rfl | rfl | rfl := place_eq_error h <;> exact nofun

theorem exists_null_of_read {t : Tree} {p : Path} {failure : Failure} (h : t.read p = .error failure)
    (hcause : failure.cause = .nullCharacter) : ∃ part ∈ p.parts, '\x00' ∈ part := by
  unfold read at h
  split at h
  · rename_i hplace
    cases h
    obtain ⟨-, hnull⟩ | hother | hother | hother := place_eq_error hplace
    · exact hnull
    · cases hcause.symm.trans hother
    · cases hcause.symm.trans hother
    · cases hcause.symm.trans hother
  · split at h <;> cases h <;> cases hcause

theorem read_of_null {t : Tree} {p : Path} (h : ∃ part ∈ p.parts, '\x00' ∈ part) :
    t.read p = .error ⟨.nullCharacter, p⟩ := by
  obtain ⟨part, hpart, hnull⟩ := h
  have hany : p.parts.any (·.contains '\x00') = true :=
    List.any_eq_true.2 ⟨part, hpart, List.contains_iff_mem.2 hnull⟩
  rw [read, place, if_pos hany]

theorem Filled.read {t u : Tree} {p : Path} {place : Place} {content : Bytes}
    (h : Filled place content t u) (hplace : t.place p = .ok place)
    (hat : t.at? place ≠ some .directory) : u.read p = .ok content :=
  read_eq_ok_iff.2 ⟨place, (h.keeps hat).place hplace, (h.at_eq place).trans (if_pos rfl)⟩

theorem Keeps.read {touched : List Place} {t t' : Tree} (hkeeps : Keeps touched t t') {p : Path}
    {content : Bytes} (hp : t.location p ∉ touched) (h : t.read p = .ok content) :
    t'.read p = .ok content := by
  obtain ⟨q, hplace, hat⟩ := read_eq_ok_iff.1 h
  rw [← eq_location_of_place hplace] at hp
  exact read_eq_ok_iff.2 ⟨q, hkeeps.place hplace, (hkeeps.file hp content).2 hat⟩

def left {α : Type} (w : Write α) (t : Tree) : Tree :=
  match w t with
  | .ok _ t' => t'
  | .error _ t' => t'

theorem left_of_ok {α : Type} {w : Write α} {t t' : Tree} {a : α} (h : w t = .ok a t') :
    left w t = t' := by
  rw [left, h]

theorem left_of_error {α : Type} {w : Write α} {t t' : Tree} {f : Failure} (h : w t = .error f t') :
    left w t = t' := by
  rw [left, h]

def failure? {α β : Type} (w : Write α) (t : Tree) (look : Tree → β) : Option (Failure × β) :=
  match w t with
  | .ok _ _ => none
  | .error f u => some (f, look u)

theorem exists_of_failure? {α β : Type} {w : Write α} {t : Tree} {look : Tree → β} {f : Failure} {b : β}
    (h : failure? w t look = some (f, b)) : ∃ u, w t = .error f u ∧ look u = b := by
  unfold failure? at h
  split at h
  · cases h
  · rename_i u hrun
    cases h
    exact ⟨u, hrun, rfl⟩

theorem bind_eq_ok {α β : Type} {w : Write α} {k : α → Write β} {t t' : Tree} {b : β}
    (h : (w >>= k) t = .ok b t') : ∃ a u, w t = .ok a u ∧ k a u = .ok b t' := by
  change EStateM.bind w k t = .ok b t' at h
  rw [EStateM.bind] at h
  split at h
  · rename_i a u hw
    exact ⟨a, u, hw, h⟩
  · cases h

theorem bind_eq_error {α β : Type} {w : Write α} {k : α → Write β} {t v : Tree} {f : Failure}
    (h : (w >>= k) t = .error f v) :
    w t = .error f v ∨ ∃ a u, w t = .ok a u ∧ k a u = .error f v := by
  change EStateM.bind w k t = .error f v at h
  rw [EStateM.bind] at h
  split at h
  · rename_i a u hw
    exact .inr ⟨a, u, hw, h⟩
  · rename_i f' u hw
    cases h
    exact .inl hw

theorem bind_of_ok {α β : Type} {w : Write α} {t u : Tree} {a : α} (h : w t = .ok a u)
    (k : α → Write β) : (w >>= k) t = k a u := by
  change EStateM.bind w k t = k a u
  rw [EStateM.bind, h]

theorem bind_of_error {α β : Type} {w : Write α} {t u : Tree} {f : Failure} (h : w t = .error f u)
    (k : α → Write β) : (w >>= k) t = .error f u := by
  change EStateM.bind w k t = .error f u
  rw [EStateM.bind, h]

theorem left_bind_cases {α β : Type} (w : Write α) (k : α → Write β) (t : Tree) :
    (∃ a, left (w >>= k) t = left (k a) (left w t)) ∨ left (w >>= k) t = left w t := by
  cases hrun : w t with
  | ok a u =>
    refine .inl ⟨a, ?_⟩
    rw [left_of_ok hrun, left, bind_of_ok hrun, left]
  | error f u =>
    refine .inr ?_
    rw [left_of_error hrun, left_of_error (bind_of_error hrun k)]

theorem keeps_bind {α β : Type} {touched : List Place} {w : Write α} {k : α → Write β} {t : Tree}
    (hw : Keeps touched t (left w t)) (hk : ∀ a u, Keeps touched u (left (k a) u)) :
    Keeps touched t (left (w >>= k) t) := by
  obtain ⟨a, hleft⟩ | hleft := left_bind_cases w k t
  · rw [hleft]
    exact hw.trans (hk a _)
  · rw [hleft]
    exact hw

theorem get_bind {α : Type} (k : Tree → Write α) (t : Tree) : (get >>= k) t = k t t := rfl

theorem set_bind {α : Type} (u : Tree) (k : PUnit → Write α) (t : Tree) : (set u >>= k) t = k ⟨⟩ u := rfl

theorem makeDirectory_cases (p : Path) (t : Tree) :
    (∃ place, t.place p = .ok place ∧ t.at? place = none ∧
      makeDirectory p t = .ok () (t.advance.put place .directory)) ∨
    ∃ f u, makeDirectory p t = .error f u ∧ SameEntries t u ∧ ¬ f.cause.BreaksOff := by
  rw [makeDirectory, get_bind]
  cases hplace : t.place p with
  | error cause => exact .inr ⟨⟨cause, p⟩, t, rfl, .refl t, not_breaksOff_of_place hplace⟩
  | ok place =>
    cases hat : t.at? place with
    | some entry => exact .inr ⟨⟨.exists, p⟩, t, by simp only [hat]; rfl, .refl t, nofun⟩
    | none =>
      cases t.next? with
      | none => exact .inl ⟨place, rfl, hat, by simp only [hat]; rfl⟩
      | some i =>
        exact .inr ⟨⟨.refused i.why, p⟩, t.advance, by simp only [hat]; rfl, sameEntries_advance t,
          nofun⟩

theorem openFile_cases (p : Path) (t : Tree) :
    (∃ place u, t.place p = .ok place ∧ t.at? place ≠ some .directory ∧
      openFile p t = .ok place u ∧ Filled place [] t u) ∨
    ∃ f u, openFile p t = .error f u ∧ SameEntries t u ∧ ¬ f.cause.BreaksOff := by
  rw [openFile, get_bind]
  cases hplace : t.place p with
  | error cause => exact .inr ⟨⟨cause, p⟩, t, rfl, .refl t, not_breaksOff_of_place hplace⟩
  | ok place =>
    by_cases hat : t.at? place = some .directory
    · exact .inr ⟨⟨.isDirectory, p⟩, t, by simp only [hat]; rfl, .refl t, nofun⟩
    · cases habove : t.at? place.dropLast with
      | none => exact .inr ⟨⟨.notFound, p⟩, t, by simp only [habove]; rfl, .refl t, nofun⟩
      | some entry =>
        cases entry with
        | file _ => exact .inr ⟨⟨.notDirectory, p⟩, t, by simp only [habove]; rfl, .refl t, nofun⟩
        | directory =>
          cases t.next? with
          | none =>
            exact .inl ⟨place, _, rfl, hat, by simp only [habove]; rfl,
              filled_put (ne_nil_of_not_directory hat) []⟩
          | some i =>
            exact .inr ⟨⟨.refused i.why, p⟩, t.advance, by simp only [habove]; rfl,
              sameEntries_advance t, nofun⟩

theorem fill_cases (p : Path) {place : Place} (content : Bytes) {t u : Tree}
    (h : Filled place [] t u) (hplace : place ≠ []) :
    (∃ v, fill p place content u = .ok () v ∧ Filled place content t v) ∨
    ∃ why written v, fill p place content u = .error ⟨.brokenOff why, p⟩ v ∧
      Filled place (content.take written) t v := by
  rw [fill, get_bind]
  cases u.next? with
  | none => exact .inl ⟨_, rfl, h.put hplace content⟩
  | some i =>
    exact .inr ⟨i.why, i.written, _, rfl, h.put hplace (content.take i.written)⟩

/-- The file of the path is written, or a beginning of it, or the entries are left as they are. -/
theorem write_cases (p : Path) {content : Symbols} {bytes : Bytes} (hbytes : content.encode? = some bytes)
    (t : Tree) :
    (∃ place u, t.place p = .ok place ∧ t.at? place ≠ some .directory ∧
      write p content t = .ok () u ∧ Filled place bytes t u) ∨
    (∃ place why written u, t.place p = .ok place ∧ t.at? place ≠ some .directory ∧
      write p content t = .error ⟨.brokenOff why, p⟩ u ∧ Filled place (bytes.take written) t u) ∨
    ∃ f u, write p content t = .error f u ∧ SameEntries t u ∧ ¬ f.cause.BreaksOff := by
  obtain ⟨place, u, hplace, hat, hopen, hempty⟩ | ⟨f, u, hopen, hsame, hcause⟩ := openFile_cases p t
  · have hwrite : write p content t = fill p place bytes u := by
      rw [write, bind_of_ok hopen, hbytes]
    obtain ⟨v, hfill, hfilled⟩ | ⟨why, written, v, hfill, hfilled⟩ :=
      fill_cases p bytes hempty (ne_nil_of_not_directory hat)
    · exact .inl ⟨place, v, hplace, hat, hwrite.trans hfill, hfilled⟩
    · exact .inr (.inl ⟨place, why, written, v, hplace, hat, hwrite.trans hfill, hfilled⟩)
  · exact .inr (.inr ⟨f, u, bind_of_error hopen _, hsame, hcause⟩)

theorem keeps_makeDirectory (p : Path) (t : Tree) : Keeps [] t (left (makeDirectory p) t) := by
  obtain ⟨place, -, hat, hrun⟩ | ⟨f, u, hrun, hsame, -⟩ := makeDirectory_cases p t
  · rw [left_of_ok hrun]
    exact .put_directory hat
  · rw [left_of_error hrun]
    exact hsame.keeps

theorem left_ensureDirectory (p : Path) (t : Tree) :
    left (ensureDirectory p) t = left (makeDirectory p) t := by
  rw [left, ensureDirectory, get_bind, left]
  cases makeDirectory p t with
  | ok a u => rfl
  | error f u =>
    dsimp only
    rw [set_bind]
    split_ifs <;> rfl

theorem left_ensureDirectories_cases (depth : Nat) (p : Path) (t : Tree) :
    left (ensureDirectories (depth + 1) p) t = left (makeDirectory p) t ∨
      left (ensureDirectories (depth + 1) p) t =
        left (ensureDirectories depth p.parent >>= fun _ => ensureDirectory p)
          (left (makeDirectory p) t) := by
  rw [left, ensureDirectories, get_bind, left]
  cases makeDirectory p t with
  | ok a u => exact .inl rfl
  | error f u =>
    dsimp only
    rw [set_bind]
    split_ifs
    · exact .inr rfl
    · exact .inl rfl
    · exact .inl rfl

theorem not_breaksOff_of_makeDirectory {p : Path} {t u : Tree} {f : Failure}
    (h : makeDirectory p t = .error f u) : ¬ f.cause.BreaksOff := by
  obtain ⟨place, -, -, hrun⟩ | ⟨f', u', hrun, -, hcause⟩ := makeDirectory_cases p t
  · cases h.symm.trans hrun
  · cases h.symm.trans hrun
    exact hcause

theorem not_breaksOff_of_ensureDirectory {p : Path} {t u : Tree} {f : Failure}
    (h : ensureDirectory p t = .error f u) : ¬ f.cause.BreaksOff := by
  rw [ensureDirectory, get_bind] at h
  cases hmake : makeDirectory p t with
  | ok a v =>
    rw [hmake] at h
    cases h
  | error f' v =>
    rw [hmake] at h
    dsimp only at h
    rw [set_bind] at h
    split_ifs at h
    · cases h
    · cases h
      exact not_breaksOff_of_makeDirectory hmake

theorem not_breaksOff_of_ensureDirectories {depth : Nat} {p : Path} {t u : Tree} {f : Failure}
    (h : ensureDirectories depth p t = .error f u) : ¬ f.cause.BreaksOff := by
  induction depth generalizing p t u with
  | zero => exact not_breaksOff_of_ensureDirectory h
  | succ depth ih =>
    rw [ensureDirectories, get_bind] at h
    cases hmake : makeDirectory p t with
    | ok a v =>
      rw [hmake] at h
      cases h
    | error f' v =>
      rw [hmake] at h
      dsimp only at h
      rw [set_bind] at h
      split_ifs at h
      · obtain h | ⟨a, w, -, h⟩ := bind_eq_error h
        · exact ih h
        · exact not_breaksOff_of_ensureDirectory h
      · cases h
      · cases h
        exact not_breaksOff_of_makeDirectory hmake

theorem keeps_ensureDirectory (p : Path) (t : Tree) : Keeps [] t (left (ensureDirectory p) t) := by
  rw [left_ensureDirectory]
  exact keeps_makeDirectory p t

theorem keeps_ensureDirectories (depth : Nat) (p : Path) (t : Tree) :
    Keeps [] t (left (ensureDirectories depth p) t) := by
  induction depth generalizing p t with
  | zero => exact keeps_ensureDirectory p t
  | succ depth ih =>
    obtain hleft | hleft := left_ensureDirectories_cases depth p t
    · rw [hleft]
      exact keeps_makeDirectory p t
    · rw [hleft]
      exact (keeps_makeDirectory p t).trans (keeps_bind (ih p.parent _) fun _ u => keeps_ensureDirectory p u)

theorem keeps_write (p : Path) {content : Symbols} {bytes : Bytes} (hbytes : content.encode? = some bytes)
    (t : Tree) : Keeps [t.location p] t (left (write p content) t) := by
  obtain ⟨place, u, hplace, hat, hrun, hfilled⟩ | ⟨place, why, written, u, hplace, hat, hrun, hfilled⟩ |
    ⟨f, u, hrun, hsame, -⟩ := write_cases p hbytes t
  · rw [left_of_ok hrun, ← eq_location_of_place hplace]
    exact hfilled.keeps hat
  · rw [left_of_error hrun, ← eq_location_of_place hplace]
    exact hfilled.keeps hat
  · rw [left_of_error hrun]
    exact hsame.keeps.mono (List.nil_subset _)

theorem read_of_write {p : Path} {content : Symbols} {bytes : Bytes} {t t' : Tree}
    (hbytes : content.encode? = some bytes) (h : write p content t = .ok () t') :
    t'.read p = .ok bytes := by
  obtain ⟨place, u, hplace, hat, hrun, hfilled⟩ | ⟨place, why, written, u, -, -, hrun, -⟩ |
    ⟨f, u, hrun, -, -⟩ := write_cases p hbytes t
  · cases h.symm.trans hrun
    exact hfilled.read hplace hat
  · cases h.symm.trans hrun
  · cases h.symm.trans hrun

end Tree
end BattleScript.Files
