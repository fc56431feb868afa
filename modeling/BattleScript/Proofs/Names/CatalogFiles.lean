import BattleScript.Names.Catalog
import BattleScript.Proofs.Files.Writing
import BattleScript.Proofs.Json.Strings
import BattleScript.Proofs.Text.Utf8

/-!
Catalog files hold what was written to them. The text of a catalog file has no carriage return, so it
comes through the reading of line ends as it is, and the object in it is read with the same names in the
same order.
-/
namespace BattleScript.Names
open Text Files

namespace NameMap

section
variable {σ : Type}

theorem eq_of_entries {m m' : NameMap σ} (h : m.entries = m'.entries) : m = m' := by
  cases m
  cases m'
  cases h
  rfl

variable [DecidableEq σ]

theorem entries_foldl_put (pairs : List (σ × σ)) (m : NameMap σ)
    (h : (Assoc.keys (m.entries ++ pairs)).Nodup) :
    (pairs.foldl (fun m p => m.put p.1 p.2) m).entries = m.entries ++ pairs := by
  induction pairs generalizing m with
  | nil => exact (List.append_nil _).symm
  | cons p pairs ih =>
    have hput : (m.put p.1 p.2).entries = m.entries ++ [p] := Assoc.put_of_nodup_keys h
    rw [List.append_cons, ← hput] at h
    rw [List.foldl_cons, ih _ h, hput, ← List.append_cons]

theorem ofList_entries (m : NameMap σ) : ofList m.entries = m :=
  eq_of_entries (entries_foldl_put m.entries empty m.distinct)

end

def symbols (m : NameMap) : NameMap Symbols where
  entries := m.entries.map (Prod.map Text.symbols Text.symbols)
  distinct := by
    have hkeys : Assoc.keys (m.entries.map (Prod.map Text.symbols Text.symbols)) =
        (Assoc.keys m.entries).map Text.symbols := by
      rw [Assoc.keys, Assoc.keys, List.map_map, List.map_map]
      rfl
    rw [hkeys]
    exact List.pairwise_map.2 (m.distinct.imp fun hne => mt symbols_inj.1 hne)

theorem ofJson?_toJson (m : NameMap Symbols) : ofJson? m.toJson = some m := by
  have hlabels : (m.entries.map fun p => (p.1, Json.string p.2)).map (fun f => (f.1, f.2.label)) =
      m.entries := by
    rw [List.map_map]
    exact List.map_id m.entries
  rw [toJson, ofJson?, hlabels, ofList_entries]

theorem shown_symbols (m : NameMap) : m.symbols.shown = m := by
  have hentries : (m.symbols.entries.filterMap fun p => p.1.text?.map fun id => (id, p.2.shown)) =
      m.entries := by
    have hsome : (fun p => p.1.text?.map fun id => (id, p.2.shown)) ∘ Prod.map Text.symbols Text.symbols =
        (some : Text × Text → Option (Text × Text)) := by
      funext p
      simp only [Function.comp_apply, Prod.map, Symbols.text?_symbols, Symbols.shown_symbols,
        Option.map_some]
    rw [symbols, List.filterMap_map, hsome, List.filterMap_some]
  rw [shown, hentries, ofList_entries]

theorem symbols_fileText (m : NameMap) : Text.symbols m.fileText = m.symbols.fileText := by
  rw [fileText, symbols_append, Json.symbols_letters, fileText]
  exact congrArg (· ++ _) (Json.symbols_write_strings 0 m.entries)

theorem read_fileText (m : NameMap) : Json.read (Text.symbols m.fileText) = .ok m.symbols.toJson := by
  have hkeys : Assoc.keys (Json.stringFields m.symbols.entries) = Assoc.keys m.symbols.entries :=
    List.map_map
  rw [symbols_fileText]
  exact Json.read_write_strings 0 (hkeys ▸ m.symbols.distinct) (List.all_eq_true.1 rfl)

theorem return_not_mem_fileText (m : NameMap) : '\r' ∉ m.fileText := by
  rw [fileText, List.mem_append]
  rintro (h | h)
  · exact Json.return_not_mem_write_strings 0 m.entries h
  · exact absurd h (by decide)

theorem ofBytes_fileText (m : NameMap) (path : Path) :
    ofBytes path (Utf8.encode m.fileText) = .ok m := by
  simp only [ofBytes, Utf8.decode_encode, unifyNewlines_eq_self m.return_not_mem_fileText, read_fileText,
    ofJson?_toJson, shown_symbols]

theorem read_of_bytes {m : NameMap} {t : Files.Tree} {path : Path}
    (h : t.read path = .ok (Utf8.encode m.fileText)) : NameMap.read t path = .ok m := by
  rw [NameMap.read, h]
  exact m.ofBytes_fileText path

theorem encode?_fileText (m : NameMap) :
    Symbols.encode? (m.fileText.map Json.Letter.symbol) = some (Utf8.encode m.fileText) :=
  congrArg (Option.map Utf8.encode) (Symbols.text?_symbols m.fileText)

theorem read_of_write {m : NameMap} {path : Path} {t t' : Files.Tree}
    (h : m.write path t = .ok () t') :
    t'.read path = .ok (Utf8.encode m.fileText) ∧ Tree.Keeps [t.location path] t t' := by
  obtain ⟨_, u, hmake, hwrite⟩ := Tree.bind_eq_ok h
  have hmade := Tree.keeps_ensureDirectories path.parent.parts.length path.parent t
  have hbytes := m.encode?_fileText
  have hwritten := Tree.keeps_write path hbytes u
  rw [Tree.left_of_ok hmake] at hmade
  rw [Tree.left_of_ok hwrite, hmade.location] at hwritten
  exact ⟨Tree.read_of_write hbytes hwrite, (hmade.mono (List.nil_subset _)).trans hwritten⟩

end NameMap

/-- A catalog that has been written to two different places is read from them, with its names in the
same order. -/
theorem Catalog.read_write (catalog : Catalog) {abilities pets : Path} {t t' : Files.Tree}
    (hplaces : t.location abilities ≠ t.location pets)
    (hwrite : catalog.write abilities pets t = .ok () t') :
    Catalog.read t' abilities pets = .ok catalog := by
  obtain ⟨_, u, hfirst, hsecond⟩ := Tree.bind_eq_ok hwrite
  obtain ⟨hread, hkeeps⟩ := NameMap.read_of_write hfirst
  obtain ⟨hread', hkeeps'⟩ := NameMap.read_of_write hsecond
  -- The second write leaves the first file alone, as it goes to another place.
  have hother : u.location abilities ∉ [u.location pets] := by
    rw [hkeeps.location, hkeeps.location, List.mem_singleton]
    exact hplaces
  rw [Catalog.read, NameMap.read_of_bytes (hkeeps'.read hother hread), NameMap.read_of_bytes hread']

theorem Catalog.read_write_nested :
    let catalog : Catalog :=
      ⟨⟨[("7", "\"\\ \r\n\x00\x1f"), ("", "\u2028é\t"), ("\r", "")], by decide⟩,
        ⟨[("39", "Rabbit:39")], by decide⟩⟩
    let abilities : Path := .ofText "data/names/abilities.json"
    let pets : Path := .ofText "../pets.json"
    let t : Files.Tree :=
      { here := .ofText "/home/u", entries := [(["home"], .directory), (["home", "u"], .directory)] }
    ∃ t', t.location abilities ≠ t.location pets ∧ catalog.write abilities pets t = .ok () t' ∧
      Catalog.read t' abilities pets = .ok catalog := by
  intro catalog abilities pets t
  have hplaces : t.location abilities ≠ t.location pets := by decide +kernel +revert
  have hok : (match catalog.write abilities pets t with
      | .ok _ _ => true
      | .error _ _ => false) = true := by
    decide +kernel +revert
  cases hwrite : catalog.write abilities pets t with
  | ok _ t' => exact ⟨t', hplaces, rfl, Catalog.read_write catalog hplaces hwrite⟩
  | error f t' =>
    rw [hwrite] at hok
    cases hok

end BattleScript.Names
