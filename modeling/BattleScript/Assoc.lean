/-!
Pairs in order of first insertion. A later value for a key takes the place of the earlier one.
-/
namespace BattleScript.Assoc
variable {κ α : Type} [DecidableEq κ]

def put (k : κ) (v : α) : List (κ × α) → List (κ × α)
  | [] => [(k, v)]
  | (k', v') :: r => if k' = k then (k, v) :: r else (k', v') :: put k v r

def get? (k : κ) : List (κ × α) → Option α
  | [] => none
  | (k', v) :: r => if k' = k then some v else get? k r

def keys (m : List (κ × α)) : List κ :=
  m.map Prod.fst

theorem put_of_not_mem_keys {k : κ} {m : List (κ × α)} (h : k ∉ keys m) (v : α) :
    put k v m = m ++ [(k, v)] := by
  induction m with
  | nil => rfl
  | cons p r ih =>
    obtain ⟨hk, hr⟩ := not_or.1 (mt List.mem_cons.2 h)
    rw [put, if_neg (Ne.symm hk), ih hr, List.cons_append]

theorem put_of_nodup_keys {k : κ} {v : α} {m r : List (κ × α)}
    (h : (keys (m ++ (k, v) :: r)).Nodup) : put k v m = m ++ [(k, v)] := by
  apply put_of_not_mem_keys
  intro hmem
  rw [keys, List.map_append, List.nodup_append] at h
  exact h.2.2 k hmem k (List.mem_cons_self ..) rfl

theorem get?_put (k j : κ) (v : α) (m : List (κ × α)) :
    get? j (put k v m) = if k = j then some v else get? j m := by
  induction m with
  | nil => rfl
  | cons p r ih =>
    obtain ⟨k', v'⟩ := p
    by_cases h : k' = k
    · subst h; by_cases hj : k' = j <;> simp [put, get?, hj]
    · by_cases hj : k' = j
      · subst hj
        have hk : k ≠ k' := fun e => h e.symm
        simp [put, get?, h, hk]
      · simp [put, get?, h, hj, ih]

theorem mem_keys_put (k j : κ) (v : α) (m : List (κ × α)) :
    j ∈ keys (put k v m) ↔ j = k ∨ j ∈ keys m := by
  induction m with
  | nil => simp [put, keys]
  | cons p r ih =>
    obtain ⟨k', v'⟩ := p
    by_cases h : k' = k
    · subst h; simp [put, keys]
    · simp only [put, h, if_false]
      simp only [keys, List.map_cons, List.mem_cons] at ih ⊢
      rw [ih]
      constructor <;> rintro (h | h | h) <;> simp [h]

theorem nodup_keys_put (k : κ) (v : α) (m : List (κ × α)) (h : (keys m).Nodup) :
    (keys (put k v m)).Nodup := by
  induction m with
  | nil => simp [put, keys]
  | cons p r ih =>
    obtain ⟨k', v'⟩ := p
    obtain ⟨hk, hr⟩ := List.nodup_cons.1 h
    by_cases hkk : k' = k
    · subst hkk; simpa [put, keys] using h
    · simp only [put, hkk, if_false, keys, List.map_cons]
      refine List.nodup_cons.2 ⟨fun hm => ?_, ih hr⟩
      rcases (mem_keys_put k k' v r).1 hm with e | e
      · exact hkk e
      · exact hk e

end BattleScript.Assoc
