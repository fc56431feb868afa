import Mathlib.Data.List.Infix
import BattleScript.Proofs.English.Notes
import BattleScript.Proofs.Script.Comparison

/-!
Conjunctions. A condition is split at the leftmost ` & ` again and again, so texts that are joined by
` & ` come apart in the same places, as long as no text makes such a separator with the one that follows.
The parts of any condition hold no separator themselves, and reading one of them alone gives its predicate.
-/
namespace BattleScript.English
open Text

theorem inOrder_trim (t : Text) : InOrder [trim t] t := by
  obtain ⟨w, w', -, -, ht⟩ := exists_blank_append_trim t
  exact ⟨w, w', ht, trivial⟩

theorem InOrder.of_trim {ps : List Text} {t : Text} (h : InOrder ps (trim t)) : InOrder ps t := by
  obtain ⟨w, w', -, -, ht⟩ := exists_blank_append_trim t
  rw [ht]
  exact (h.left w).right

theorem inOrder_map_trim_join (sep : Text) (pieces : List Text) :
    InOrder (pieces.map trim) (join sep pieces) := by
  induction pieces with
  | nil => trivial
  | cons p pieces ih => exact (inOrder_trim p).join_cons ih

end BattleScript.English

namespace BattleScript.Script
open Text

theorem Predicate.ofText_trim (t : Text) : Predicate.ofText (trim t) = Predicate.ofText t := by
  simp only [Predicate.ofText, (trimmed_trim t).trim_eq]

namespace Condition

def separator : Text := [' ', '&', ' ']

theorem splitAnd_separator (r : Text) : splitAnd (separator ++ r) = [] :: splitAnd r :=
  rfl

theorem splitAnd_cons {c : Char} {r : Text} (h : ¬ separator <+: c :: r) :
    splitAnd (c :: r) = consHead c (splitAnd r) := by
  rw [splitAnd]
  rintro r' rfl rfl
  exact h ⟨r', rfl⟩

theorem splitAnd_of_firstAt {p r : Text} (h : FirstAt separator (p ++ (separator ++ r)) p.length) :
    splitAnd (p ++ (separator ++ r)) = p :: splitAnd r := by
  induction p with
  | nil => exact splitAnd_separator r
  | cons c p ih =>
    rw [List.cons_append, List.length_cons] at h
    obtain ⟨hstart, hrest⟩ := firstAt_cons_succ.1 h
    rw [List.cons_append, splitAnd_cons hstart, ih hrest]
    rfl

theorem splitAnd_of_not_isInfix {t : Text} (h : ¬ separator <:+: t) : splitAnd t = [t] := by
  induction t with
  | nil => rfl
  | cons c t ih =>
    obtain ⟨hstart, hrest⟩ := not_or.1 (mt List.infix_cons_iff.2 h)
    rw [splitAnd_cons hstart, ih hrest]
    rfl

/-- Texts that can be joined to a condition and told apart again: none holds a separator, and none but the
last ends with the half of one that the next separator would complete. -/
structure Joinable (parts : List Text) : Prop where
  nonempty : parts ≠ []
  trimmed : ∀ p ∈ parts, trim p = p
  noSeparator : ∀ p ∈ parts, ¬ separator <:+: p
  first : parts.head? ≠ some []
  last : parts.getLast? ≠ some []
  noHalf : ∀ p ∈ parts.dropLast, ¬ [' ', '&'] <:+ p

theorem firstAt_separator {p : Text} (hp : Trimmed p) (hseparator : ¬ separator <:+: p)
    (hhalf : ¬ [' ', '&'] <:+ p) (r : Text) :
    FirstAt separator (p ++ (separator ++ r)) p.length := by
  refine ⟨?_, fun j hj hoccurs => ?_⟩
  · have h := occursAt_append (p := separator) p r
    rwa [List.append_assoc] at h
  · rw [OccursAt, List.drop_append_of_le_length hj.le] at hoccurs
    have hsuffix : p.drop j <:+ p := List.drop_suffix j p
    -- The separator would start in the last one or two characters of the part, or lie inside it.
    rcases hdrop : p.drop j with _ | ⟨a, _ | ⟨b, _ | ⟨c, q⟩⟩⟩
    · exact absurd (List.drop_eq_nil_iff.1 hdrop) (Nat.not_le.2 hj)
    · rw [hdrop] at hoccurs hsuffix
      obtain rfl : ' ' = a := (List.cons_prefix_cons.1 hoccurs).1
      have hlast : p.getLast? = some ' ' := by
        obtain ⟨before, rfl⟩ := hsuffix
        exact List.getLast?_concat
      exact absurd (hp.right ' ' hlast) (by decide)
    · rw [hdrop] at hoccurs hsuffix
      obtain ⟨ha, hrest⟩ := List.cons_prefix_cons.1 hoccurs
      obtain ⟨hb, -⟩ := List.cons_prefix_cons.1 hrest
      rw [← ha, ← hb] at hsuffix
      exact hhalf hsuffix
    · rw [hdrop] at hoccurs hsuffix
      have hlen : separator.length ≤ (a :: b :: c :: q).length := Nat.le_add_left 3 q.length
      have hinside := List.prefix_of_prefix_length_le hoccurs (List.prefix_append _ _) hlen
      exact hseparator (hinside.isInfix.trans hsuffix.isInfix)

theorem splitAnd_join {parts : List Text} (hne : parts ≠ []) (htrimmed : ∀ p ∈ parts, Trimmed p)
    (hseparator : ∀ p ∈ parts, ¬ separator <:+: p)
    (hhalf : ∀ p ∈ parts.dropLast, ¬ [' ', '&'] <:+ p) : splitAnd (join separator parts) = parts := by
  induction parts with
  | nil => exact absurd rfl hne
  | cons p parts ih =>
    obtain ⟨hp, htrimmed⟩ := List.forall_mem_cons.1 htrimmed
    obtain ⟨hpseparator, hseparator⟩ := List.forall_mem_cons.1 hseparator
    cases parts with
    | nil =>
      rw [join_singleton]
      exact splitAnd_of_not_isInfix hpseparator
    | cons q parts =>
      rw [List.dropLast_cons_cons] at hhalf
      obtain ⟨hphalf, hhalf⟩ := List.forall_mem_cons.1 hhalf
      have hfirst := firstAt_separator hp hpseparator hphalf (join separator (q :: parts))
      rw [join_cons_cons, splitAnd_of_firstAt hfirst,
        ih (List.cons_ne_nil q parts) htrimmed hseparator hhalf]

theorem head?_join (sep : Text) {p : Text} (hp : p ≠ []) (parts : List Text) :
    (join sep (p :: parts)).head? = p.head? := by
  cases parts with
  | nil => rw [join_singleton]
  | cons q parts => rw [join_cons_cons, List.head?_append_of_ne_nil _ hp]

theorem getLast?_join (sep : Text) {parts : List Text} {l : Text} (h : parts.getLast? = some l)
    (hl : l ≠ []) : (join sep parts).getLast? = l.getLast? := by
  induction parts with
  | nil => cases h
  | cons p parts ih =>
    cases parts with
    | nil =>
      obtain rfl : p = l := Option.some.inj h
      rw [join_singleton]
    | cons q parts =>
      rw [List.getLast?_cons_cons] at h
      have hrest := ih h
      have hne : join sep (q :: parts) ≠ [] := by
        intro hnil
        rw [hnil, List.getLast?_nil, eq_comm, List.getLast?_eq_none_iff] at hrest
        exact hl hrest
      rw [join_cons_cons, ← List.append_assoc, List.getLast?_append_of_ne_nil _ hne, hrest]

namespace Joinable
variable {parts : List Text}

theorem trimmed_of_mem (h : Joinable parts) {p : Text} (hp : p ∈ parts) : Trimmed p :=
  h.trimmed p hp ▸ trimmed_trim p

theorem trimmed_join (h : Joinable parts) : Trimmed (join separator parts) := by
  constructor
  · obtain ⟨p, ps, rfl⟩ := List.exists_cons_of_ne_nil h.nonempty
    have hp : p ≠ [] := fun hnil => h.first (congrArg some hnil)
    rw [head?_join separator hp]
    exact (h.trimmed_of_mem (List.mem_cons_self ..)).left
  · have hlast : parts.getLast? = some (parts.getLast h.nonempty) :=
      List.getLast?_eq_some_getLast h.nonempty
    have hne : parts.getLast h.nonempty ≠ [] := fun hnil => h.last (hlast.trans (congrArg some hnil))
    rw [getLast?_join separator hlast hne]
    exact (h.trimmed_of_mem (List.getLast_mem h.nonempty)).right

theorem predicates_join (h : Joinable parts) :
    (ofText (join separator parts)).predicates = parts.map Predicate.ofText := by
  have hsplit : splitAnd (join separator parts) = parts :=
    splitAnd_join h.nonempty (fun _ => h.trimmed_of_mem) h.noSeparator h.noHalf
  rw [ofText, h.trimmed_join.trim_eq, hsplit]

end Joinable

theorem exists_splitAnd_eq_cons (t : Text) : ∃ p ps, splitAnd t = p :: ps := by
  fun_induction splitAnd t with
  | case1 r ih => exact ⟨[], splitAnd r, rfl⟩
  | case2 c r _ ih =>
    obtain ⟨p, ps, hsplit⟩ := ih
    exact ⟨c :: p, ps, by rw [hsplit]; rfl⟩
  | case3 => exact ⟨[], [], rfl⟩

theorem join_splitAnd (t : Text) : join separator (splitAnd t) = t := by
  fun_induction splitAnd t with
  | case1 r ih =>
    obtain ⟨p, ps, hsplit⟩ := exists_splitAnd_eq_cons r
    rw [hsplit] at ih ⊢
    rw [join_cons_cons, ih]
    rfl
  | case2 c r _ ih =>
    obtain ⟨p, ps, hsplit⟩ := exists_splitAnd_eq_cons r
    rw [hsplit] at ih ⊢
    rw [← ih]
    cases ps with
    | nil => simp only [consHead, join_singleton]
    | cons q ps => simp only [consHead, join_cons_cons, List.cons_append]
  | case3 => rfl

theorem prefix_of_splitAnd_eq_cons {t p : Text} {ps : List Text} (h : splitAnd t = p :: ps) :
    p <+: t := by
  rw [← join_splitAnd t, h]
  cases ps with
  | nil => rw [join_singleton]
  | cons q ps =>
    rw [join_cons_cons]
    exact List.prefix_append p _

theorem not_isInfix_of_mem_splitAnd {t piece : Text} (h : piece ∈ splitAnd t) :
    ¬ separator <:+: piece := by
  fun_induction splitAnd t generalizing piece with
  | case1 r ih =>
    rcases List.mem_cons.1 h with rfl | h
    · decide
    · exact ih h
  | case2 c r hne ih =>
    obtain ⟨p, ps, hsplit⟩ := exists_splitAnd_eq_cons r
    rw [hsplit] at h ih
    rcases List.mem_cons.1 h with rfl | h
    · intro hinfix
      rcases List.infix_cons_iff.1 hinfix with hfront | hinfix
      · -- A separator at the front of the piece would be one at the front of the text.
        have hpiece : c :: p <+: c :: r :=
          (List.prefix_cons_inj c).2 (prefix_of_splitAnd_eq_cons hsplit)
        obtain ⟨rest, hrest⟩ := hfront.trans hpiece
        cases hrest
        exact hne rest rfl rfl
      · exact ih (List.mem_cons_self ..) hinfix
    · exact ih (List.mem_cons_of_mem _ h)
  | case3 =>
    rw [List.mem_singleton.1 h]
    decide

theorem ofText_of_mem_splitAnd {t piece : Text} (h : piece ∈ splitAnd t) :
    ofText (trim piece) = ⟨trim piece, [Predicate.ofText piece]⟩ := by
  have hsplit : splitAnd (trim piece) = [trim piece] :=
    splitAnd_of_not_isInfix (not_isInfix_trim (not_isInfix_of_mem_splitAnd h))
  rw [ofText, (trimmed_trim piece).trim_eq, hsplit, List.map_singleton, Predicate.ofText_trim]

theorem raws_ofText (raw : Text) :
    (ofText raw).predicates.map Predicate.raw = (splitAnd (trim raw)).map trim := by
  rw [ofText, List.map_map]
  rfl

/-- Texts that are joined by ` & ` are read as they would be one by one. Conversely every condition has a
predicate, each predicate can be read again from its own text, alone or as a whole condition, and these
texts stand in the condition one after another. -/
theorem ofText_conjunction :
    (∀ parts, Joinable parts →
      (ofText (join separator parts)).predicates = parts.map Predicate.ofText) ∧
    ∀ raw, (ofText raw).predicates ≠ [] ∧
      (∀ p ∈ (ofText raw).predicates, Predicate.ofText p.raw = p ∧ ofText p.raw = ⟨p.raw, [p]⟩) ∧
      English.InOrder ((ofText raw).predicates.map Predicate.raw) raw := by
  refine ⟨fun _ h => h.predicates_join, fun raw => ⟨?_, ?_, ?_⟩⟩
  · obtain ⟨piece, pieces, hsplit⟩ := exists_splitAnd_eq_cons (trim raw)
    rw [ofText, hsplit]
    exact List.cons_ne_nil _ _
  · intro p hp
    obtain ⟨piece, hpiece, rfl⟩ := List.mem_map.1 hp
    exact ⟨Predicate.ofText_trim piece, ofText_of_mem_splitAnd hpiece⟩
  · have h := English.inOrder_map_trim_join separator (splitAnd (trim raw))
    rw [join_splitAnd] at h
    rw [raws_ofText]
    exact h.of_trim

theorem ofText_conjunction_edges :
    Joinable ["a", "", "&", "& b", "c=1 &"] ∧
      (ofText "a &  & & & & b & c=1 &").predicates =
        ([Text.of "a", Text.of "", Text.of "&", Text.of "& b", Text.of "c=1 &"]).map Predicate.ofText ∧
      ∀ p ∈ (ofText "a & b &  & c").predicates, ofText p.raw = ⟨p.raw, [p]⟩ := by
  have hjoinable : Joinable ["a", "", "&", "& b", "c=1 &"] :=
    ⟨by decide, by decide +kernel, by decide +kernel, by decide, by decide, by decide +kernel⟩
  exact ⟨hjoinable, ofText_conjunction.1 _ hjoinable,
    fun p hp => ((ofText_conjunction.2 "a & b &  & c").2.1 p hp).2⟩

end Condition
end BattleScript.Script
