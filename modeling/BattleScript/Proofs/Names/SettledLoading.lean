import BattleScript.Proofs.Files.Writing
import BattleScript.Proofs.Json.Digits
import BattleScript.Proofs.Names.OneLoad
import BattleScript.Proofs.Text.Utf8

/-!
Loading names from files. A load that is waited for settles whatever is in the files. A resolver that is
made from them at once settles in the same way, unless a path has a null character or a whole number of
too many digits is written in a file: these two are not taken for faults of the file.
-/
namespace BattleScript.Names
open Text Files

def Outcome.ofFiles (files : Files.Tree) (abilities pets : Path) : Outcome :=
  (Catalog.read files abilities pets).mapError LoadError.message

/-- The path can stand for a file, and reading it as a document does not stop at a whole number of too
many digits. -/
structure Loadable (files : Files.Tree) (path : Path) : Prop where
  name : ∀ part ∈ path.parts, '\x00' ∉ part
  numbers : ∀ bytes text, files.read path = .ok bytes → Utf8.decode bytes = .ok text →
    ∀ digits, Json.read (unifyNewlines text).symbols ≠ .error (.tooManyDigits digits)

section Faults
variable {files : Files.Tree} {abilities pets path : Path} {e : LoadError}

theorem NameMap.ofBytes_isFileFault {bytes : Bytes} (h : ofBytes path bytes = .error e)
    (hnumbers : ∀ text, Utf8.decode bytes = .ok text → ∀ digits,
      Json.read (unifyNewlines text).symbols ≠ .error (.tooManyDigits digits)) :
    e.isFileFault = true := by
  unfold ofBytes at h
  split at h
  · cases h
    rfl
  · rename_i text hdecode
    dsimp only at h
    split at h
    · rename_i digits hread
      exact absurd hread (hnumbers text hdecode digits)
    · cases h
      rfl
    · split at h
      · cases h
      · cases h
        rfl

theorem NameMap.read_isFileFault (hpath : Loadable files path)
    (h : NameMap.read files path = .error e) : e.isFileFault = true := by
  unfold NameMap.read at h
  split at h
  · rename_i bytes hbytes
    exact ofBytes_isFileFault h (hpath.numbers bytes · hbytes)
  · rename_i failure hfailure
    split at h
    · cases h
      rfl
    · rename_i hcause
      obtain ⟨part, hpart, hnull⟩ := Tree.exists_null_of_read hfailure hcause
      exact absurd hnull (hpath.name part hpart)
    · cases h
      rfl

theorem Catalog.read_isFileFault (habilities : Loadable files abilities) (hpets : Loadable files pets)
    (h : Catalog.read files abilities pets = .error e) : e.isFileFault = true := by
  unfold Catalog.read at h
  split at h
  · rename_i hread
    cases h
    exact NameMap.read_isFileFault habilities hread
  · split at h
    · rename_i hread
      cases h
      exact NameMap.read_isFileFault hpets hread
    · cases h

end Faults

section Settling
variable {files : Files.Tree} {abilities pets : Path}

theorem Outcome.ofFiles_resolver (files : Files.Tree) (abilities pets : Path) :
    (∀ c, (Outcome.ofFiles files abilities pets).resolver = .loaded c ↔
      Catalog.read files abilities pets = .ok c) ∧
    ((Outcome.ofFiles files abilities pets).resolver = .failed ↔
      ∃ e, Catalog.read files abilities pets = .error e) := by
  unfold Outcome.ofFiles
  cases Catalog.read files abilities pets with
  | ok c => exact ⟨fun c' => ⟨fun h => by cases h; rfl, fun h => by cases h; rfl⟩, nofun, nofun⟩
  | error e => exact ⟨fun c' => ⟨nofun, nofun⟩, fun _ => ⟨e, rfl⟩, fun _ => rfl⟩

theorem Resolver.ofFiles_isOk (habilities : Loadable files abilities) (hpets : Loadable files pets) :
    ∃ r log, Resolver.ofFiles files abilities pets = .ok (r, log) := by
  unfold Resolver.ofFiles
  cases hread : Catalog.read files abilities pets with
  | ok c => exact ⟨.loaded c, [], rfl⟩
  | error e =>
    have hfault : e.isFileFault = true := Catalog.read_isFileFault habilities hpets hread
    exact ⟨.failed, [loadFailedRecord e.message], if_pos hfault⟩

theorem Resolver.eq_of_ofFiles {r : Resolver} {log : List LogRecord}
    (h : Resolver.ofFiles files abilities pets = .ok (r, log)) :
    r = (Outcome.ofFiles files abilities pets).resolver := by
  unfold Resolver.ofFiles at h
  unfold Outcome.ofFiles
  cases hread : Catalog.read files abilities pets with
  | ok c =>
    rw [hread] at h
    cases h
    rfl
  | error e =>
    rw [hread] at h
    dsimp only at h
    split_ifs at h
    cases h
    rfl

/-- A resolver can be made from files that can be loaded. Whenever one is made it has settled, and every
lookup of it is answered as by the one that loads the same files later. -/
theorem Resolver.ofFiles_settles (files : Files.Tree) (abilities pets : Path) :
    (Loadable files abilities → Loadable files pets →
      ∃ r log, Resolver.ofFiles files abilities pets = .ok (r, log)) ∧
    ∀ r log, Resolver.ofFiles files abilities pets = .ok (r, log) →
      r ≠ .pending ∧
      (∀ c, r = .loaded c ↔ Catalog.read files abilities pets = .ok c) ∧
      (r = .failed ↔ ∃ e, Catalog.read files abilities pets = .error e) ∧
      ∀ es, OwnTickets es → Deferred.EndedWith es (.ofFiles files abilities pets) →
        (Deferred.start.run es).resolver = r ∧
          ∀ ticket kind id answer, (ticket, .lookup kind id) ∈ requests es →
            (ticket, answer) ∈ (Deferred.start.run es).answers → answer = .name (r.lookup kind id) := by
  refine ⟨Resolver.ofFiles_isOk, fun r log hfiles => ?_⟩
  have hr : r = (Outcome.ofFiles files abilities pets).resolver := Resolver.eq_of_ofFiles hfiles
  obtain ⟨hloaded, hfailed⟩ := Outcome.ofFiles_resolver files abilities pets
  rw [hr]
  refine ⟨Outcome.resolver_ne_pending _, hloaded, hfailed, fun es htickets hended => ?_⟩
  obtain ⟨hdone, hresolver⟩ := hended.run_eq
  refine ⟨hresolver, fun ticket kind id answer hrequest hanswer => ?_⟩
  obtain ⟨r', hr', heq⟩ := (Deferred.served_run htickets).answered _ hanswer
  have hsame : r' = .lookup kind id := htickets.eq hr' hrequest
  rw [hsame, hresolver] at heq
  exact heq

end Settling

def twoFiles (abilities pets : Text) : Files.Tree :=
  { here := .ofText "/"
    entries := [(["a.json"], .file (Utf8.encode abilities)), (["p.json"], .file (Utf8.encode pets))] }

theorem read_twoFiles (abilities pets : Text) :
    (twoFiles abilities pets).read (.ofText "a.json") = .ok (Utf8.encode abilities) ∧
      (twoFiles abilities pets).read (.ofText "p.json") = .ok (Utf8.encode pets) := by
  constructor <;> rfl

theorem Loadable.of_no_run {files : Files.Tree} {path : Path} {t : Text}
    (hname : ∀ part ∈ path.parts, '\x00' ∉ part) (hread : files.read path = .ok (Utf8.encode t))
    (hrun : ∀ n, Json.digitLimit < n → ¬ Json.HasDigitRun n (symbols (unifyNewlines t))) :
    Loadable files path := by
  refine ⟨hname, fun bytes text hbytes hdecode digits hfault => ?_⟩
  rw [hread] at hbytes
  cases hbytes
  rw [Utf8.decode_encode] at hdecode
  cases hdecode
  obtain ⟨hlimit, hdigits⟩ := Json.hasDigitRun_of_read hfault
  exact hrun digits hlimit hdigits

theorem Loadable.of_short {files : Files.Tree} {path : Path} {t : Text}
    (hname : ∀ part ∈ path.parts, '\x00' ∉ part) (hread : files.read path = .ok (Utf8.encode t))
    (hshort : (unifyNewlines t).length ≤ Json.digitLimit) : Loadable files path := by
  refine .of_no_run hname hread fun n hlimit hrun => ?_
  have hlength := hrun.le_length
  rw [symbols, List.length_map] at hlength
  exact absurd (hlimit.trans_le hlength) (Nat.not_lt.2 hshort)

theorem Resolver.ofFiles_settles_list :
    let files := twoFiles "\x7b\"1\": \"Claw\"\x7d" "[]"
    Loadable files (.ofText "a.json") ∧ Loadable files (.ofText "p.json") ∧
      ∃ log, Resolver.ofFiles files (.ofText "a.json") (.ofText "p.json") = .ok (.failed, log) := by
  intro files
  obtain ⟨ha, hp⟩ := read_twoFiles "\x7b\"1\": \"Claw\"\x7d" "[]"
  have habilities : Loadable files (.ofText "a.json") :=
    Loadable.of_short (by decide) ha (by decide +kernel)
  have hpets : Loadable files (.ofText "p.json") :=
    Loadable.of_short (by decide) hp (by decide +kernel)
  have hnone : (Catalog.read files (.ofText "a.json") (.ofText "p.json")).toOption = none := by
    decide +kernel
  obtain ⟨hreturns, hsettles⟩ := Resolver.ofFiles_settles files (.ofText "a.json") (.ofText "p.json")
  obtain ⟨r, log, hfiles⟩ := hreturns habilities hpets
  obtain ⟨-, -, hfailed, -⟩ := hsettles r log hfiles
  have hr : r = .failed := by
    refine hfailed.2 ?_
    cases hread : Catalog.read files (.ofText "a.json") (.ofText "p.json") with
    | ok c =>
      rw [hread] at hnone
      cases hnone
    | error e => exact ⟨e, rfl⟩
  exact ⟨habilities, hpets, log, hr ▸ hfiles⟩

theorem Catalog.read_long_number {n : Nat} (hn : Json.digitLimit < n) (pets : Text) (path : Path) :
    Catalog.read (twoFiles (Json.onesObject n) pets) (.ofText "a.json") path =
      .error (.tooManyDigits n) := by
  have hdocument : unifyNewlines (Json.onesObject n) = Json.onesObject n := by
    apply unifyNewlines_eq_self
    simp [Json.onesObject, List.mem_replicate]
  have hmap : NameMap.read (twoFiles (Json.onesObject n) pets) (.ofText "a.json") =
      .error (.tooManyDigits n) := by
    simp only [NameMap.read, (read_twoFiles _ pets).1, NameMap.ofBytes, Utf8.decode_encode, hdocument,
      Json.read_onesObject hn]
  rw [Catalog.read, hmap]

/-- One digit too many in a file: a resolver made at once is an error, and one that loads later settles
as failed. -/
theorem Resolver.ofFiles_long_number :
    let files := twoFiles (Json.onesObject 4301) "\x7b\x7d"
    let outcome := Outcome.ofFiles files (.ofText "a.json") (.ofText "p.json")
    Resolver.ofFiles files (.ofText "a.json") (.ofText "p.json") = .error (.tooManyDigits 4301) ∧
      (Deferred.start.run (Deferred.together outcome [(0, .settled)])).resolver = .failed := by
  intro files outcome
  have hread : Catalog.read files (.ofText "a.json") (.ofText "p.json") = .error (.tooManyDigits 4301) :=
    Catalog.read_long_number (by decide) _ _
  have hended : Deferred.EndedWith (Deferred.together outcome [(0, .settled)]) outcome :=
    ⟨[.request 0 .settled, .loadBegins], [.answer 0], rfl, rfl⟩
  constructor
  · rw [Resolver.ofFiles, hread]
    rfl
  · rw [hended.run_eq.2, (Outcome.ofFiles_resolver _ _ _).2]
    exact ⟨_, hread⟩

end BattleScript.Names
