import BattleScript.Proofs.Files.NewDirectories
import BattleScript.Proofs.Names.CatalogFiles

/-!
What is left of a catalog that could not be written. The abilities are written first, so a failure can
leave new abilities beside old pets. A file is not written in one step: it is made empty when it is
opened, and a write that is broken off then leaves a beginning of the new names in place of the old.
-/
namespace BattleScript.Names
open Text Files

namespace NameMap

structure Stored (names : NameMap) (files : Files.Tree) (path : Path) : Prop where
  bytes : files.read path = .ok (Utf8.encode names.fileText)
  names : NameMap.read files path = .ok names

def Begun (names : NameMap) (files : Files.Tree) (path : Path) : Prop :=
  ∃ written, files.read path = .ok ((Utf8.encode names.fileText).take written)

/-- What can stand in the file of the names: all of them, or a beginning if a write was broken off. -/
def FileContent (names : NameMap) (broken : Prop) (content : Bytes) : Prop :=
  content = Utf8.encode names.fileText ∨
    broken ∧ ∃ written, content = (Utf8.encode names.fileText).take written

section
variable {names : NameMap} {t t' : Files.Tree} {path : Path} {touched : List Place}

theorem Stored.of_bytes (h : t.read path = .ok (Utf8.encode names.fileText)) : names.Stored t path :=
  ⟨h, NameMap.read_of_bytes h⟩

theorem Stored.of_keeps (h : names.Stored t path) (hkeeps : Tree.Keeps touched t t')
    (hpath : t.location path ∉ touched) : names.Stored t' path :=
  .of_bytes (hkeeps.read hpath h.bytes)

theorem eq_of_read {bytes content : Bytes} {place : Place} (h : t.read path = .ok bytes)
    (hplace : place = t.location path) (hat : t.at? place = some (.file content)) : content = bytes := by
  obtain ⟨q, hq, hat'⟩ := Tree.read_eq_ok_iff.1 h
  rw [hplace, ← Tree.eq_location_of_place hq, hat'] at hat
  cases hat
  rfl

theorem Stored.fileContent {content : Bytes} {place : Place} (h : names.Stored t path) (broken : Prop)
    (hplace : place = t.location path) (hat : t.at? place = some (.file content)) :
    names.FileContent broken content :=
  .inl (eq_of_read h.bytes hplace hat)

theorem Begun.fileContent {content : Bytes} {place : Place} {broken : Prop} (h : names.Begun t path)
    (hbroken : broken) (hplace : place = t.location path) (hat : t.at? place = some (.file content)) :
    names.FileContent broken content :=
  h.elim fun written hread => .inr ⟨hbroken, written, eq_of_read hread hplace hat⟩

end

theorem write_cases (names : NameMap) (path : Path) (t : Files.Tree) :
    (∃ u, names.write path t = .ok () u ∧ names.Stored u path ∧
      Tree.Grows [t.location path] (·.LeadsTo path.parent) t u) ∨
    (∃ f u, names.write path t = .error f u ∧ f.cause.BreaksOff ∧ names.Begun u path ∧
      Tree.Grows [t.location path] (·.LeadsTo path.parent) t u) ∨
    ∃ f u, names.write path t = .error f u ∧ ¬ f.cause.BreaksOff ∧
      Tree.Grows [] (·.LeadsTo path.parent) t u := by
  have hmade := Tree.grows_ensureDirectories path.parent.parts.length path.parent t
  cases hmake : Tree.ensureDirectories path.parent.parts.length path.parent t with
  | error f u =>
    rw [Tree.left_of_error hmake] at hmade
    exact .inr (.inr ⟨f, u, Tree.bind_of_error hmake _, Tree.not_breaksOff_of_ensureDirectories hmake, hmade⟩)
  | ok a u =>
    rw [Tree.left_of_ok hmake] at hmade
    have hwrite : names.write path t = Tree.write path (names.fileText.map Json.Letter.symbol) u :=
      Tree.bind_of_ok hmake _
    have hfilled {place : Place} {content : Bytes} {v : Files.Tree} (hplace : u.place path = .ok place)
        (hat : u.at? place ≠ some .directory) (h : Tree.Filled place content u v) :
        Tree.Grows [t.location path] (·.LeadsTo path.parent) t v := by
      have hgrows := h.grows hat (·.LeadsTo path.parent)
      rw [Tree.eq_location_of_place hplace, hmade.location] at hgrows
      exact (hmade.mono (List.nil_subset _) fun _ => id).trans hgrows
    obtain ⟨place, v, hplace, hat, hrun, h⟩ | ⟨place, why, written, v, hplace, hat, hrun, h⟩ |
      ⟨f, v, hrun, hsame, hcause⟩ := Tree.write_cases path names.encode?_fileText u
    · exact .inl ⟨v, hwrite.trans hrun, .of_bytes (h.read hplace hat), hfilled hplace hat h⟩
    · exact .inr (.inl ⟨_, v, hwrite.trans hrun, ⟨why, rfl⟩, ⟨written, h.read hplace hat⟩,
        hfilled hplace hat h⟩)
    · exact .inr (.inr ⟨f, v, hwrite.trans hrun, hcause, hmade.trans (hsame.grows _)⟩)

end NameMap

namespace Catalog
variable (catalog : Catalog) (abilities pets : Path) (t : Files.Tree)

def Above (q : Path) : Prop :=
  q.LeadsTo abilities.parent ∨ q.LeadsTo pets.parent

def AbilitiesFailed (f : Failure) (u : Files.Tree) : Prop :=
  (¬ f.cause.BreaksOff → Tree.Grows [] (·.LeadsTo abilities.parent) t u) ∧
  (f.cause.BreaksOff → catalog.abilities.Begun u abilities ∧
    Tree.Grows [t.location abilities] (·.LeadsTo abilities.parent) t u)

def PetsFailed (f : Failure) (v : Files.Tree) : Prop :=
  (¬ f.cause.BreaksOff → catalog.abilities.Stored v abilities ∧
    Tree.Grows [t.location abilities] (Above abilities pets) t v) ∧
  (f.cause.BreaksOff → catalog.pets.Begun v pets ∧
    (t.location abilities ≠ t.location pets → catalog.abilities.Stored v abilities) ∧
      Tree.Grows [t.location abilities, t.location pets] (Above abilities pets) t v)

def BothWritten (v : Files.Tree) : Prop :=
  catalog.pets.Stored v pets ∧
    (t.location abilities ≠ t.location pets → catalog.abilities.Stored v abilities) ∧
      Tree.Grows [t.location abilities, t.location pets] (Above abilities pets) t v

variable {catalog abilities pets t}

theorem grows_both {u v : Files.Tree} (h : Tree.Grows [t.location abilities] (·.LeadsTo abilities.parent) t u)
    (h' : Tree.Grows [u.location pets] (·.LeadsTo pets.parent) u v) :
    Tree.Grows [t.location abilities, t.location pets] (Above abilities pets) t v := by
  rw [h.location] at h'
  exact Tree.Grows.trans (h.mono (List.subset_append_left _ _) fun _ => .inl)
    (h'.mono (List.subset_append_right [t.location abilities] _) fun _ => .inr)

theorem stored_both {u v : Files.Tree} (h : Tree.Grows [t.location abilities] (·.LeadsTo abilities.parent) t u)
    (h' : Tree.Grows [u.location pets] (·.LeadsTo pets.parent) u v)
    (hstored : catalog.abilities.Stored u abilities) (hne : t.location abilities ≠ t.location pets) :
    catalog.abilities.Stored v abilities := by
  refine hstored.of_keeps h'.toKeeps ?_
  rw [h.location, h.location, List.mem_singleton]
  exact hne

variable (catalog abilities pets t)

theorem write_cases :
    (∃ f u, catalog.abilities.write abilities t = .error f u ∧
      catalog.write abilities pets t = .error f u ∧ AbilitiesFailed catalog abilities t f u) ∨
    (∃ u f v, catalog.abilities.write abilities t = .ok () u ∧ catalog.pets.write pets u = .error f v ∧
      catalog.write abilities pets t = .error f v ∧ PetsFailed catalog abilities pets t f v) ∨
    ∃ u v, catalog.abilities.write abilities t = .ok () u ∧ catalog.pets.write pets u = .ok () v ∧
      catalog.write abilities pets t = .ok () v ∧ BothWritten catalog abilities pets t v := by
  obtain ⟨u, hfirst, hstored, hgrows⟩ | ⟨f, u, hfirst, hbreaks, hbegun, hgrows⟩ |
    ⟨f, u, hfirst, hnot, hgrows⟩ := catalog.abilities.write_cases abilities t
  · have hwrite : catalog.write abilities pets t = catalog.pets.write pets u := Tree.bind_of_ok hfirst _
    obtain ⟨v, hsecond, hstored', hnext⟩ | ⟨f, v, hsecond, hbreaks, hbegun, hnext⟩ |
      ⟨f, v, hsecond, hnot, hnext⟩ := catalog.pets.write_cases pets u
    · exact .inr (.inr ⟨u, v, hfirst, hsecond, hwrite.trans hsecond, hstored',
        stored_both hgrows hnext hstored, grows_both hgrows hnext⟩)
    · exact .inr (.inl ⟨u, f, v, hfirst, hsecond, hwrite.trans hsecond, fun h => absurd hbreaks h,
        fun _ => ⟨hbegun, stored_both hgrows hnext hstored, grows_both hgrows hnext⟩⟩)
    · refine .inr (.inl ⟨u, f, v, hfirst, hsecond, hwrite.trans hsecond, fun _ => ⟨?_, ?_⟩,
        fun h => absurd h hnot⟩)
      · exact hstored.of_keeps hnext.toKeeps List.not_mem_nil
      · exact Tree.Grows.trans (hgrows.mono (List.Subset.refl _) fun _ => .inl)
          (hnext.mono (List.nil_subset _) fun _ => .inr)
  · exact .inl ⟨f, u, hfirst, Tree.bind_of_error hfirst _, fun h => absurd hbreaks h,
      fun _ => ⟨hbegun, hgrows⟩⟩
  · exact .inl ⟨f, u, hfirst, Tree.bind_of_error hfirst _, fun _ => hgrows, fun h => absurd h hnot⟩

/-- Every file of `t'` is one of `t`, or one of the two files of the catalog. These have all their names,
unless a write was broken off. -/
def WholeUnless (broken : Prop) (t' : Files.Tree) : Prop :=
  ∀ place content, t'.at? place = some (.file content) →
    t.at? place = some (.file content) ∨
    place = t.location abilities ∧ catalog.abilities.FileContent broken content ∨
    place = t.location pets ∧ catalog.pets.FileContent broken content

variable {catalog abilities pets t}

theorem wholeUnless_of_pets {broken : Prop} {v : Files.Tree}
    (hgrows : Tree.Grows [t.location abilities, t.location pets] (Above abilities pets) t v)
    (hstored : t.location abilities ≠ t.location pets → catalog.abilities.Stored v abilities)
    (hpets : ∀ {place content}, place = v.location pets → v.at? place = some (.file content) →
      catalog.pets.FileContent broken content) :
    WholeUnless catalog abilities pets t broken v := by
  intro place content hfile
  by_cases hp : place = t.location pets
  · exact .inr (.inr ⟨hp, hpets (hp.trans (hgrows.location _).symm) hfile⟩)
  · by_cases ha : place = t.location abilities
    · have hne : t.location abilities ≠ t.location pets := ha ▸ hp
      exact .inr (.inl ⟨ha, (hstored hne).fileContent broken (hgrows.location _ ▸ ha) hfile⟩)
    · refine .inl ((hgrows.file (fun hmem => ?_) content).1 hfile)
      rcases List.mem_cons.1 hmem with h | h
      · exact ha h
      · exact hp (List.mem_singleton.1 h)

theorem wholeUnless_of_abilities {broken : Prop} {made : Path → Prop} {v : Files.Tree}
    (hgrows : Tree.Grows [t.location abilities] made t v)
    (habilities : ∀ {place content}, place = v.location abilities → v.at? place = some (.file content) →
      catalog.abilities.FileContent broken content) :
    WholeUnless catalog abilities pets t broken v := by
  intro place content hfile
  by_cases ha : place = t.location abilities
  · exact .inr (.inl ⟨ha, habilities (ha.trans (hgrows.location _).symm) hfile⟩)
  · exact .inl ((hgrows.file (mt List.mem_singleton.1 ha) content).1 hfile)

theorem wholeUnless_of_abilitiesFailed {f : Failure} {u : Files.Tree}
    (h : AbilitiesFailed catalog abilities t f u) :
    WholeUnless catalog abilities pets t f.cause.BreaksOff u := by
  by_cases hbreaks : f.cause.BreaksOff
  · obtain ⟨hbegun, hgrows⟩ := h.2 hbreaks
    exact wholeUnless_of_abilities hgrows (hbegun.fileContent hbreaks)
  · exact fun place content hfile => .inl (((h.1 hbreaks).file List.not_mem_nil content).1 hfile)

theorem wholeUnless_of_petsFailed {f : Failure} {v : Files.Tree}
    (h : PetsFailed catalog abilities pets t f v) :
    WholeUnless catalog abilities pets t f.cause.BreaksOff v := by
  by_cases hbreaks : f.cause.BreaksOff
  · obtain ⟨hbegun, hstored, hgrows⟩ := h.2 hbreaks
    exact wholeUnless_of_pets hgrows hstored (hbegun.fileContent hbreaks)
  · obtain ⟨hstored, hgrows⟩ := h.1 hbreaks
    exact wholeUnless_of_abilities hgrows (hstored.fileContent _)

variable (catalog abilities pets t)

/-- What is left of a catalog that is written. If the abilities cannot be written, all files are as before,
or the write was broken off and their file has a beginning of the new ones. If the pets cannot, the file of
the abilities has the new ones, and that of the pets is as before or has a beginning of the new pets.
Otherwise the two files have the new names. All other files are as before. Directories are only made, and
only above the two paths. -/
theorem write_leaves :
    match catalog.abilities.write abilities t with
    | .error f u =>
      catalog.write abilities pets t = .error f u ∧ AbilitiesFailed catalog abilities t f u ∧
        WholeUnless catalog abilities pets t f.cause.BreaksOff u
    | .ok _ u =>
      match catalog.pets.write pets u with
      | .error f v =>
        catalog.write abilities pets t = .error f v ∧ PetsFailed catalog abilities pets t f v ∧
          WholeUnless catalog abilities pets t f.cause.BreaksOff v
      | .ok _ v =>
        catalog.write abilities pets t = .ok () v ∧ BothWritten catalog abilities pets t v ∧
          WholeUnless catalog abilities pets t False v := by
  obtain ⟨f, u, hfirst, hrun, hleft⟩ | ⟨u, f, v, hfirst, hsecond, hrun, hleft⟩ |
    ⟨u, v, hfirst, hsecond, hrun, hleft⟩ := write_cases catalog abilities pets t
  · rw [hfirst]
    exact ⟨hrun, hleft, wholeUnless_of_abilitiesFailed hleft⟩
  · rw [hfirst]
    dsimp only
    rw [hsecond]
    exact ⟨hrun, hleft, wholeUnless_of_petsFailed hleft⟩
  · rw [hfirst]
    dsimp only
    rw [hsecond]
    exact ⟨hrun, hleft, wholeUnless_of_pets hleft.2.2 hleft.2.1 (hleft.1.fileContent _)⟩

theorem write_leaves_below :
    let catalog : Catalog := ⟨⟨[("7", "Claw")], by decide⟩, ⟨[("39", "Rabbit")], by decide⟩⟩
    let abilities : Path := .ofText "data/a.json"
    let pets : Path := .ofText "data/a.json/p.json"
    let t : Files.Tree := { here := .ofText "/", entries := [(["p.json"], .file [0x7B, 0x7D])] }
    ∃ v, catalog.write abilities pets t = .error ⟨.exists, abilities⟩ v ∧
      NameMap.read v abilities = .ok catalog.abilities ∧ v.at? ["p.json"] = some (.file [0x7B, 0x7D]) := by
  intro catalog abilities pets t
  have hfile : t.at? ["p.json"] = some (.file [0x7B, 0x7D]) := by decide +kernel +revert
  have hother : [Text.of "p.json"] ∉ [t.location abilities] := by
    clear hfile
    decide +kernel +revert
  have hcause : (match catalog.abilities.write abilities t with
      | .error _ _ => none
      | .ok _ u =>
        match catalog.pets.write pets u with
        | .error f _ => some f
        | .ok _ _ => none) = some ⟨.exists, abilities⟩ := by
    clear hfile hother
    decide +kernel +revert
  -- What is left to show does not depend on the values, and must not evaluate them.
  clear_value catalog abilities pets t
  have hleaves := write_leaves catalog abilities pets t
  cases hfirst : catalog.abilities.write abilities t with
  | error f u =>
    rw [hfirst] at hcause
    cases hcause
  | ok a u =>
    rw [hfirst] at hcause hleaves
    dsimp only at hcause hleaves
    cases hsecond : catalog.pets.write pets u with
    | ok a' v =>
      rw [hsecond] at hcause
      cases hcause
    | error f v =>
      rw [hsecond] at hcause hleaves
      cases hcause
      obtain ⟨hrun, ⟨hleft, -⟩, -⟩ := hleaves
      obtain ⟨hstored, hgrows⟩ := hleft nofun
      exact ⟨v, hrun, hstored.names, (hgrows.file hother _).2 hfile⟩

/-- A disk that is full behind the first byte of the abilities: their file has lost the old names. And a
path that leads through a directory and out of it: the directory is made, though neither file is below it,
and stands where the other file should. -/
theorem write_cut_short :
    let catalog : Catalog := ⟨⟨[("1", "Claw")], by decide⟩, ⟨[("2", "Cat")], by decide⟩⟩
    let old : Bytes := [0x7B, 0x7D]
    let t : Files.Tree :=
      { here := .ofText "/", entries := [(["a.json"], .file old)], ahead := [none, some ⟨.noSpace, 1⟩] }
    let t' : Files.Tree := { here := .ofText "/", entries := [] }
    (∃ u, catalog.write (.ofText "a.json") (.ofText "p.json") t =
        .error ⟨.brokenOff .noSpace, .ofText "a.json"⟩ u ∧
      t.at? ["a.json"] = some (.file old) ∧ u.at? ["a.json"] = some (.file [0x7B])) ∧
    ∃ u, catalog.write (.ofText "new/../a.json") (.ofText "new") t' =
        .error ⟨.isDirectory, .ofText "new"⟩ u ∧
      t'.location (.ofText "new/../a.json") = [.of "a.json"] ∧ u.at? ["new"] = some .directory := by
  intro catalog old t t'
  have hfull : Tree.failure? (catalog.write (.ofText "a.json") (.ofText "p.json")) t (·.at? ["a.json"]) =
      some (⟨.brokenOff .noSpace, .ofText "a.json"⟩, some (.file [0x7B])) := by
    decide +kernel +revert
  have hthrough : Tree.failure? (catalog.write (.ofText "new/../a.json") (.ofText "new")) t' (·.at? ["new"]) =
      some (⟨.isDirectory, .ofText "new"⟩, some .directory) := by
    clear hfull
    decide +kernel +revert
  obtain ⟨u, hrun, hu⟩ := Tree.exists_of_failure? hfull
  obtain ⟨v, hrun', hv⟩ := Tree.exists_of_failure? hthrough
  exact ⟨⟨u, hrun, rfl, hu⟩, v, hrun', by decide, hv⟩

end Catalog
end BattleScript.Names
