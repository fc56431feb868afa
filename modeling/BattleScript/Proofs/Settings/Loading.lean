import BattleScript.Settings
import BattleScript.Proofs.Files.Writing
import BattleScript.Proofs.Text.WellFormed

/-!
Settings from a file. They are read from every TOML document in which the tables are tables and the
texts are strings. What is wrong with a document is always reported; bytes that are no text are not.
-/
namespace BattleScript.Settings
open Text Files

def HoldsTable (document : Toml.Fields) (name : Text) : Prop :=
  ∀ v, Assoc.get? name document = some v → ∃ fields, v = .table fields

def HoldsText (document : Toml.Fields) (name key : Text) : Prop :=
  ∀ fields v, Assoc.get? name document = some (.table fields) → Assoc.get? key fields = some v →
    ∃ t, v = .string t

def layout : List (Text × List Text) :=
  [("catalog", ["abilities", "pets"]), ("api", ["region", "locale"]), ("logging", ["level"])]

/-- Each of the tables is a table and each of the keys is a string, where there are any. -/
def WellTyped (document : Toml.Fields) : Prop :=
  ∀ entry ∈ layout, HoldsTable document entry.1 ∧ ∀ key ∈ entry.2, HoldsText document entry.1 key

section Documents
variable {document fields : Toml.Fields} {name key fallback : Text}

theorem exists_table_iff : (∃ fields, table document name = .ok fields) ↔ HoldsTable document name := by
  unfold table HoldsTable
  cases hget : Assoc.get? name document with
  | none => exact iff_of_true ⟨[], rfl⟩ nofun
  | some v =>
    cases v with
    | table fields => exact iff_of_true ⟨fields, rfl⟩ fun v hv => ⟨fields, (Option.some.inj hv).symm⟩
    | _ =>
      refine iff_of_false nofun fun h => ?_
      obtain ⟨fields, hfields⟩ := h _ rfl
      cases hfields

theorem holdsText_iff_of_table (h : table document name = .ok fields) :
    HoldsText document name key ↔ ∀ v, Assoc.get? key fields = some v → ∃ t, v = .string t := by
  unfold table at h
  unfold HoldsText
  cases hget : Assoc.get? name document with
  | none =>
    rw [hget] at h
    cases h
    exact iff_of_true nofun nofun
  | some v =>
    cases v with
    | table found =>
      rw [hget] at h
      cases h
      exact ⟨fun hall v hv => hall fields v rfl hv, fun hall _ v hfound hv => by cases hfound; exact hall v hv⟩
    | _ =>
      rw [hget] at h
      cases h

theorem exists_text_iff (h : table document name = .ok fields) :
    (∃ t, text fields name key fallback = .ok t) ↔ HoldsText document name key := by
  rw [holdsText_iff_of_table h]
  unfold text
  cases hget : Assoc.get? key fields with
  | none => exact iff_of_true ⟨fallback, rfl⟩ nofun
  | some v =>
    cases v with
    | string t => exact iff_of_true ⟨t, rfl⟩ fun v hv => ⟨t, (Option.some.inj hv).symm⟩
    | _ =>
      refine iff_of_false nofun fun h => ?_
      obtain ⟨t, ht⟩ := h _ rfl
      cases ht

theorem exists_bind_iff {ε α β : Type} {x : Except ε α} {f : α → Except ε β} :
    (∃ b, (x >>= f) = .ok b) ↔ ∃ a, x = .ok a ∧ ∃ b, f a = .ok b := by
  cases x with
  | error e => exact iff_of_false nofun nofun
  | ok a => exact ⟨fun h => ⟨a, rfl, h⟩, fun ⟨_, ha, h⟩ => by cases ha; exact h⟩

theorem wellTyped_iff : WellTyped document ↔
    (HoldsTable document "catalog" ∧ HoldsTable document "api" ∧ HoldsTable document "logging") ∧
      HoldsText document "catalog" "abilities" ∧ HoldsText document "catalog" "pets" ∧
        HoldsText document "api" "region" ∧ HoldsText document "api" "locale" ∧
          HoldsText document "logging" "level" := by
  simp only [WellTyped, layout, List.forall_mem_cons, List.not_mem_nil, false_implies, implies_true,
    and_true]
  constructor
  · rintro ⟨⟨hcatalog, habilities, hpets⟩, ⟨hapi, hregion, hlocale⟩, hlogging, hlevel⟩
    exact ⟨⟨hcatalog, hapi, hlogging⟩, habilities, hpets, hregion, hlocale, hlevel⟩
  · rintro ⟨⟨hcatalog, hapi, hlogging⟩, habilities, hpets, hregion, hlocale, hlevel⟩
    exact ⟨⟨hcatalog, habilities, hpets⟩, ⟨hapi, hregion, hlocale⟩, hlogging, hlevel⟩

theorem exists_ofDocument_iff (path : Path) :
    (∃ s, ofDocument path document = .ok s) ↔ WellTyped document := by
  unfold ofDocument
  simp only [exists_bind_iff]
  rw [wellTyped_iff]
  constructor
  · rintro ⟨catalog, hcatalog, api, hapi, logging, hlogging, abilities, habilities, pets, hpets, region,
      hregion, locale, hlocale, level, hlevel, -⟩
    exact ⟨⟨exists_table_iff.1 ⟨catalog, hcatalog⟩, exists_table_iff.1 ⟨api, hapi⟩,
        exists_table_iff.1 ⟨logging, hlogging⟩⟩,
      (exists_text_iff hcatalog).1 ⟨abilities, habilities⟩, (exists_text_iff hcatalog).1 ⟨pets, hpets⟩,
      (exists_text_iff hapi).1 ⟨region, hregion⟩, (exists_text_iff hapi).1 ⟨locale, hlocale⟩,
      (exists_text_iff hlogging).1 ⟨level, hlevel⟩⟩
  · rintro ⟨⟨hcatalog, hapi, hlogging⟩, habilities, hpets, hregion, hlocale, hlevel⟩
    obtain ⟨catalog, hcatalog⟩ := exists_table_iff.2 hcatalog
    obtain ⟨api, hapi⟩ := exists_table_iff.2 hapi
    obtain ⟨logging, hlogging⟩ := exists_table_iff.2 hlogging
    obtain ⟨abilities, habilities⟩ := (exists_text_iff hcatalog).2 habilities
    obtain ⟨pets, hpets⟩ := (exists_text_iff hcatalog).2 hpets
    obtain ⟨region, hregion⟩ := (exists_text_iff hapi).2 hregion
    obtain ⟨locale, hlocale⟩ := (exists_text_iff hapi).2 hlocale
    obtain ⟨level, hlevel⟩ := (exists_text_iff hlogging).2 hlevel
    exact ⟨catalog, hcatalog, api, hapi, logging, hlogging, abilities, habilities, pets, hpets, region,
      hregion, locale, hlocale, level, hlevel, _, rfl⟩

end Documents

def Foreseen {α : Type} (x : Except Error α) : Prop :=
  ∀ e, x = .error e → e.isReported = true

theorem Foreseen.bind {α β : Type} {x : Except Error α} {f : α → Except Error β} (hx : Foreseen x)
    (hf : ∀ a, Foreseen (f a)) : Foreseen (x >>= f) := by
  cases x with
  | ok a => exact hf a
  | error e =>
    intro e' h
    cases h
    exact hx e rfl

theorem foreseen_table (document : Toml.Fields) (name : Text) : Foreseen (table document name) := by
  intro e h
  unfold table at h
  split at h <;> cases h
  rfl

theorem foreseen_text (fields : Toml.Fields) (name key fallback : Text) :
    Foreseen (text fields name key fallback) := by
  intro e h
  unfold text at h
  split at h <;> cases h
  rfl

theorem foreseen_ofDocument (path : Path) (document : Toml.Fields) :
    Foreseen (ofDocument path document) := by
  unfold ofDocument
  iterate 3 refine (foreseen_table _ _).bind fun _ => ?_
  iterate 5 refine (foreseen_text _ _ _ _).bind fun _ => ?_
  exact nofun

theorem ofBytes_of_text (path : Path) {bytes : Bytes} {t : Text}
    (h : bytes.toByteArray = List.utf8Encode t) : ofBytes path bytes =
      match Toml.read (unifyNewlines t) with
      | .error .malformed => .error (.malformed path)
      | .error (.tooManyDigits digits) => .error (.tooManyDigits digits)
      | .ok document => ofDocument path document := by
  have hdecode : Utf8.decode bytes = .ok t := Utf8.decode_eq_ok_iff.2 (Utf8.toByteArray_eq_iff.1 h)
  cases hread : Toml.read (unifyNewlines t) with
  | ok document => simp only [ofBytes, hdecode, hread]
  | error fault => cases fault <;> simp only [ofBytes, hdecode, hread]

theorem ofBytes_of_not_text (path : Path) {bytes : Bytes} (h : ¬ bytes.toByteArray.IsValidUTF8) :
    ∃ fault, ofBytes path bytes = .error (.notUtf8 fault) := by
  cases hdecode : Utf8.decode bytes with
  | ok t => exact absurd (Utf8.isValidUTF8_iff.2 ⟨t, Utf8.decode_eq_ok_iff.1 hdecode⟩) h
  | error fault => exact ⟨fault, by rw [ofBytes, hdecode]⟩

theorem exists_ofBytes_iff (path : Path) (bytes : Bytes) :
    (∃ s, ofBytes path bytes = .ok s) ↔ ∃ t document, bytes.toByteArray = List.utf8Encode t ∧
      Toml.read (unifyNewlines t) = .ok document ∧ WellTyped document := by
  constructor
  · rintro ⟨s, hs⟩
    by_cases hvalid : bytes.toByteArray.IsValidUTF8
    · obtain ⟨t, ht⟩ := hvalid
      rw [ofBytes_of_text path ht] at hs
      split at hs
      · cases hs
      · cases hs
      · rename_i document hread
        exact ⟨t, document, ht, hread, (exists_ofDocument_iff path).1 ⟨s, hs⟩⟩
    · obtain ⟨fault, hfault⟩ := ofBytes_of_not_text path hvalid
      rw [hfault] at hs
      cases hs
  · rintro ⟨t, document, ht, hread, htyped⟩
    rw [ofBytes_of_text path ht, hread]
    exact (exists_ofDocument_iff path).2 htyped

theorem exists_unforeseen_ofBytes_iff (path : Path) (bytes : Bytes) :
    (∃ e, ofBytes path bytes = .error e ∧ e.isReported = false) ↔
      ¬ bytes.toByteArray.IsValidUTF8 ∨ ∃ t digits, bytes.toByteArray = List.utf8Encode t ∧
        Toml.read (unifyNewlines t) = .error (.tooManyDigits digits) := by
  constructor
  · rintro ⟨e, he, hreported⟩
    by_cases hvalid : bytes.toByteArray.IsValidUTF8
    · obtain ⟨t, ht⟩ := hvalid
      rw [ofBytes_of_text path ht] at he
      split at he
      · cases he
        cases hreported
      · rename_i digits hread
        exact .inr ⟨t, digits, ht, hread⟩
      · rename_i document _
        exact absurd (foreseen_ofDocument path document e he) (Bool.eq_false_iff.1 hreported)
    · exact .inl hvalid
  · rintro (hvalid | ⟨t, digits, ht, hread⟩)
    · obtain ⟨fault, hfault⟩ := ofBytes_of_not_text path hvalid
      exact ⟨_, hfault, rfl⟩
    · refine ⟨.tooManyDigits digits, ?_, rfl⟩
      rw [ofBytes_of_text path ht, hread]

theorem load_of_read {files : Files.Tree} {path : Path} {bytes : Bytes} (h : files.read path = .ok bytes) :
    load files path = ofBytes path bytes := by
  rw [load, h]

theorem load_of_failure {files : Files.Tree} {path : Path} {failure : Failure}
    (h : files.read path = .error failure) :
    ∃ e, load files path = .error e ∧ (e.isReported = false ↔ ∃ part ∈ path.parts, '\x00' ∈ part) := by
  rw [load, h]
  dsimp only
  split_ifs with hcause
  · exact ⟨_, rfl, iff_of_true rfl (Tree.exists_null_of_read h hcause)⟩
  · refine ⟨_, rfl, iff_of_false nofun fun hnull => hcause ?_⟩
    rw [Tree.read_of_null hnull] at h
    cases h
    rfl

/-- Settings are loaded from exactly the files whose bytes are a TOML text that is well typed. Otherwise
there is an error, which is reported unless the path has a null character, the bytes are no text, or a
number in the text has too many digits. -/
theorem load_outcome (files : Files.Tree) (path : Path) :
    ((∃ s, load files path = .ok s) ↔ ∃ bytes t document, files.read path = .ok bytes ∧
      bytes.toByteArray = List.utf8Encode t ∧ Toml.read (unifyNewlines t) = .ok document ∧
        WellTyped document) ∧
    ((∃ e, load files path = .error e ∧ e.isReported = false) ↔
      (∃ part ∈ path.parts, '\x00' ∈ part) ∨ ∃ bytes, files.read path = .ok bytes ∧
        (¬ bytes.toByteArray.IsValidUTF8 ∨ ∃ t digits, bytes.toByteArray = List.utf8Encode t ∧
          Toml.read (unifyNewlines t) = .error (.tooManyDigits digits))) := by
  cases hread : files.read path with
  | ok bytes =>
    rw [load_of_read hread, exists_ofBytes_iff, exists_unforeseen_ofBytes_iff]
    have hnull : ¬ ∃ part ∈ path.parts, '\x00' ∈ part := by
      intro h
      rw [Tree.read_of_null h] at hread
      cases hread
    simp only [Except.ok.injEq, exists_and_left, exists_eq_left', hnull, false_or, and_self]
  | error failure =>
    obtain ⟨e, he, hreported⟩ := load_of_failure hread
    rw [he, ← hreported]
    refine ⟨iff_of_false nofun nofun, ?_⟩
    simp

/-- A file with a single byte that is no text: the fault is not reported. -/
theorem load_not_text :
    let files : Files.Tree := { here := .ofText "/", entries := [(["c.toml"], .file [0xFF])] }
    ∃ e, load files (.ofText "c.toml") = .error e ∧ e.isReported = false :=
  ⟨.notUtf8 ⟨0, 0xFF, 1, .start⟩, rfl, rfl⟩

end BattleScript.Settings
