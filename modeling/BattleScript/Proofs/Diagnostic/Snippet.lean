import BattleScript.Diagnostic
import BattleScript.Proofs.Text.Newline
import BattleScript.Proofs.Text.Trim

/-!
Places shown with the lines around them. The lines are cut out of the script, joined, taken apart again
and numbered anew; every line still gets its own number, and the mark stands below the line of the place.
-/
namespace BattleScript.Diagnostic
open Text Files

/-- The first `i` characters of a line are blank, and what stands behind them is not, if anything does. -/
structure BlankUpTo (l : Text) (i : Nat) : Prop where
  le_length : i ≤ l.length
  blank : ∀ c ∈ l.take i, isBlank c = true
  stop : ∀ c ∈ l[i]?, isBlank c = false

theorem blankUpTo_iff {line : Text} {i : Nat} :
    BlankUpTo line i ↔ i = (line.takeWhile isBlank).length := by
  constructor
  · rintro ⟨hle, hblank, hstop⟩
    rw [← List.head?_drop] at hstop
    have hfront : (line.take i ++ line.drop i).takeWhile isBlank = line.take i ++ [] := by
      rw [List.takeWhile_append_of_pos hblank]
      cases hrest : line.drop i with
      | nil => rfl
      | cons c r =>
        rw [hrest] at hstop
        rw [List.takeWhile_cons_of_neg (Bool.eq_false_iff.1 (hstop c rfl))]
    rw [List.take_append_drop, List.append_nil] at hfront
    rw [hfront, List.length_take_of_le hle]
  · rintro rfl
    have htake : line.take (line.takeWhile isBlank).length = line.takeWhile isBlank :=
      (List.prefix_iff_eq_take.1 (List.takeWhile_prefix isBlank)).symm
    have hdrop : line.drop (line.takeWhile isBlank).length = trimLeft line := by
      have hcut : line.takeWhile isBlank ++ trimLeft line = line := List.takeWhile_append_dropWhile
      exact (congrArg (List.drop _) hcut.symm).trans List.drop_left
    refine ⟨(List.takeWhile_prefix isBlank).length_le, ?_, ?_⟩
    · rw [htake]
      exact List.all_eq_true.1 List.all_takeWhile
    · rw [← List.head?_drop, hdrop]
      exact head?_trimLeft line

theorem column_ofLines {lines : List Text} {k : Nat} {line : Text} (h : lines[k]? = some line)
    (path : Path) : (Context.ofLines path lines (k + 1)).column = firstColumn line := by
  have hk : ((k : Int) + 1 - 1).toNat = k := by omega
  have hfirst : (1 : Int) ≤ k + 1 := by omega
  simp only [Context.ofLines, hk, h, if_pos hfirst]
  rfl

def shown (lines : List Text) (k : Nat) : Text :=
  padLeft 4 (ofNat k) ++ " | " ++ lines.getD (k - 1) []

def rows (lines : List Text) (first last : Nat) : List Text :=
  (List.range' first (last + 1 - first)).map (shown lines)

def carets (k i : Nat) : Text :=
  List.replicate ((padLeft 4 (ofNat k) ++ " | ").length + i) ' ' ++ "^^^"

theorem mark_eq (k i : Nat) : mark k (i + 1 : Nat) = carets k i := by
  have hwidth : ((gutter k).length + ((i + 1 : Nat) : Int) - 1).toNat = (gutter k).length + i := by omega
  rw [mark, hwidth]
  rfl

theorem numbered_append (marked column number : Int) (as bs : List Text) :
    numbered marked column number (as ++ bs) =
      numbered marked column number as ++ numbered marked column (number + as.length) bs := by
  induction as generalizing number with
  | nil => simp only [List.nil_append, numbered, List.length_nil, Int.natCast_zero, Int.add_zero]
  | cons a as ih =>
    have hnumber : number + ((a :: as).length : Int) = number + 1 + as.length := by
      rw [List.length_cons]
      omega
    rw [List.cons_append, numbered, numbered, ih, hnumber]
    split_ifs <;> rfl

theorem numbered_eq_rows {lines : List Text} (marked : Nat) (column : Int) {a m : Nat}
    (hlength : a + m ≤ lines.length) (hmarked : marked ≤ a ∨ a + m < marked) :
    numbered marked column (a + 1 : Nat) ((lines.drop a).take m) = rows lines (a + 1) (a + m) := by
  induction m generalizing a with
  | zero => rw [rows, Nat.add_zero, Nat.sub_self, List.take_zero]; rfl
  | succ m ih =>
    have ha : a < lines.length := by omega
    have hrest := ih (a := a + 1) (by omega) (by omega)
    have hcount : a + (m + 1) + 1 - (a + 1) = m + 1 := by omega
    have hcount' : a + 1 + m + 1 - (a + 1 + 1) = m := by omega
    have hother : ((a + 1 : Nat) : Int) ≠ marked := by omega
    rw [rows, hcount'] at hrest
    rw [List.drop_eq_getElem_cons ha, List.take_succ_cons, numbered, if_neg hother, rows, hcount,
      List.range'_succ, List.map_cons, ← hrest, shown, Nat.add_sub_cancel,
      List.getD_eq_getElem?_getD, List.getElem?_eq_getElem ha]
    rfl

theorem numbered_marked {lines : List Text} {k : Nat} (h : k < lines.length) (i : Nat) (ls : List Text) :
    numbered (k + 1 : Nat) (i + 1 : Nat) (k + 1 : Nat) (lines[k] :: ls) =
      shown lines (k + 1) :: carets (k + 1) i ::
        numbered (k + 1 : Nat) (i + 1 : Nat) (k + 2 : Nat) ls := by
  rw [numbered, if_pos rfl, mark_eq, shown, Nat.add_sub_cancel, List.getD_eq_getElem?_getD,
    List.getElem?_eq_getElem h]
  rfl

def window (lines : List Text) (k : Nat) : List Text :=
  (lines.take (min lines.length (k + 3))).drop (k - 2)

theorem window_eq_append {lines : List Text} {k : Nat} (h : k < lines.length) :
    window lines k =
      (lines.drop (k - 2)).take (k - (k - 2)) ++
        lines[k] :: (lines.drop (k + 1)).take (min lines.length (k + 3) - (k + 1)) := by
  have hcount : min lines.length (k + 3) - (k - 2) =
      k - (k - 2) + (min lines.length (k + 3) - (k + 1) + 1) := by omega
  have hskip : k - 2 + (k - (k - 2)) = k := by omega
  rw [window, List.drop_take, hcount, List.take_add, List.drop_drop, hskip, List.drop_eq_getElem_cons h,
    List.take_succ_cons]

theorem slice_ofLines {lines : List Text} {k : Nat} (h : k < lines.length) :
    slice lines (max 1 (((k + 1 : Nat) : Int) - 2) - 1).toNat
        (min (lines.length : Int) ((k + 1 : Nat) + 2)) = window lines k := by
  have hstart : (max 1 (((k + 1 : Nat) : Int) - 2) - 1).toNat = k - 2 := by omega
  have hstop : ¬ min (lines.length : Int) ((k + 1 : Nat) + 2) < 0 := by omega
  have hcount : (min (lines.length : Int) ((k + 1 : Nat) + 2)).toNat = min lines.length (k + 3) := by omega
  rw [slice, if_neg hstop, hstart, hcount, window]

theorem join_window_ne_nil {lines : List Text} {k : Nat} (h : k < lines.length) (hsingle : lines ≠ [[]]) :
    join ['\n'] (window lines k) ≠ [] := by
  have hlength : (window lines k).length = min lines.length (k + 3) - (k - 2) := by
    rw [window, List.length_drop, List.length_take]
    omega
  cases hwindow : window lines k with
  | nil =>
    rw [hwindow, List.length_nil] at hlength
    omega
  | cons l ls =>
    cases ls with
    | nil =>
      -- A window of one line is all there is.
      rw [hwindow, List.length_singleton] at hlength
      have hk : k = 0 := by omega
      have hall : min lines.length (k + 3) = lines.length := by omega
      rw [window, hall, List.take_length, hk, Nat.zero_sub, List.drop_zero] at hwindow
      rw [join_singleton]
      rintro rfl
      exact hsingle hwindow
    | cons l' ls =>
      rw [join_cons_cons, List.singleton_append]
      exact List.append_ne_nil_of_right_ne_nil _ (List.cons_ne_nil _ _)

theorem text_of_snippet {c : Context} {t : Text} (h : c.snippet = some t) (hne : t ≠ []) :
    c.text = c.location ++ '\n' ::
      join ['\n'] (numbered c.line c.column (max 1 (c.line - 2)) (splitOn '\n' t)) := by
  obtain ⟨x, xs, rfl⟩ := List.exists_cons_of_ne_nil hne
  rw [Context.text, h]

theorem rows_succ (lines : List Text) {first last : Nat} (h : first ≤ last + 1) :
    rows lines first (last + 1) = rows lines first last ++ [shown lines (last + 1)] := by
  have hcount : last + 1 + 1 - first = last + 1 - first + 1 := by omega
  have hend : first + (last + 1 - first) = last + 1 := by omega
  rw [rows, hcount, List.range'_1_concat, hend, List.map_append, List.map_singleton, rows]

theorem numbered_window {lines : List Text} {k : Nat} (h : k < lines.length) (i : Nat) :
    numbered (k + 1 : Nat) (i + 1 : Nat) (max 1 (((k + 1 : Nat) : Int) - 2)) (window lines k) =
      rows lines (k - 2 + 1) (k + 1) ++ carets (k + 1) i :: rows lines (k + 2) (min lines.length (k + 3)) := by
  have hstart : max 1 (((k + 1 : Nat) : Int) - 2) = (k - 2 + 1 : Nat) := by omega
  have hnumber : ((k - 2 + 1 : Nat) : Int) + ((lines.drop (k - 2)).take (k - (k - 2))).length =
      (k + 1 : Nat) := by
    rw [List.length_take, List.length_drop]
    omega
  have hend : k - 2 + (k - (k - 2)) = k := by omega
  have hend' : k + 1 + (min lines.length (k + 3) - (k + 1)) = min lines.length (k + 3) := by omega
  have hbefore : numbered (k + 1 : Nat) (i + 1 : Nat) (k - 2 + 1 : Nat)
      ((lines.drop (k - 2)).take (k - (k - 2))) = rows lines (k - 2 + 1) k := by
    rw [numbered_eq_rows (k + 1) _ (by omega) (by omega), hend]
  have hafter : numbered (k + 1 : Nat) (i + 1 : Nat) (k + 2 : Nat)
      ((lines.drop (k + 1)).take (min lines.length (k + 3) - (k + 1))) =
        rows lines (k + 2) (min lines.length (k + 3)) := by
    rw [numbered_eq_rows (k + 1) _ (by omega) (by omega), hend']
  rw [hstart, window_eq_append h, numbered_append, hnumber, numbered_marked h, hbefore, hafter,
    rows_succ lines (by omega), List.append_assoc, List.singleton_append]

theorem shown_ne_carets (lines : List Text) (k p : Nat) :
    shown lines k ≠ List.replicate p ' ' ++ "^^^" := by
  intro h
  have hbar : '|' ∈ shown lines k := by simp [shown, Text.of]
  rw [h, List.mem_append] at hbar
  rcases hbar with hbar | hbar
  · exact absurd (List.eq_of_mem_replicate hbar) (by decide)
  · exact absurd hbar (by decide)

/-- A place is shown as its location and the lines around it, each with its own number. One mark is put
in, below the first character of the line of the place that is not blank. -/
theorem text_ofLines (file : Path) {lines : List Text} {n : Nat} (hfirst : 1 ≤ n)
    (hlast : n ≤ lines.length) (hbreak : ∀ line ∈ lines, '\n' ∉ line) (hsingle : lines ≠ [[]]) :
    ∃ i, BlankUpTo (lines.getD (n - 1) []) i ∧
      (Context.ofLines file lines n).text =
        join ['\n'] ((file.text ++ ':' :: ofNat n ++ ':' :: ofNat (i + 1)) ::
          (rows lines (max 1 (n - 2)) n ++ carets n i :: rows lines (n + 1) (min lines.length (n + 2)))) ∧
      ∀ k p, shown lines k ≠ List.replicate p ' ' ++ "^^^" := by
  obtain ⟨k, rfl⟩ : ∃ k, n = k + 1 := ⟨n - 1, by omega⟩
  have hline : lines[k]? = some lines[k] := List.getElem?_eq_getElem hlast
  have hne : lines ≠ [] := List.ne_nil_of_length_pos (Nat.zero_lt_of_lt hlast)
  have hcolumn : (Context.ofLines file lines (k + 1 : Nat)).column =
      ((lines[k].takeWhile isBlank).length + 1 : Nat) := column_ofLines hline file
  have hsnippet : (Context.ofLines file lines (k + 1 : Nat)).snippet =
      some (join ['\n'] (window lines k)) := by
    rw [Context.ofLines, if_neg hne, slice_ofLines hlast]
  -- Joining the lines of the window and taking the text apart gives the window again.
  have hshown := join_window_ne_nil hlast hsingle
  have hwindow : splitOn '\n' (join ['\n'] (window lines k)) = window lines k :=
    splitOn_join (fun l hl => hbreak l (List.mem_of_mem_take (List.mem_of_mem_drop hl)))
      (fun h => hshown (congrArg (join ['\n']) h))
  refine ⟨(lines[k].takeWhile isBlank).length, ?_, ?_, shown_ne_carets lines⟩
  · rw [Nat.add_sub_cancel, List.getD_eq_getElem?_getD, hline]
    exact blankUpTo_iff.2 rfl
  · have hstart : max 1 (k + 1 - 2) = k - 2 + 1 := by omega
    have hrows (front back : List Text) (row : Text) : front ++ row :: back ≠ [] :=
      List.append_ne_nil_of_right_ne_nil front (List.cons_ne_nil row back)
    rw [text_of_snippet hsnippet hshown, hwindow, Context.location, hcolumn, hstart,
      join_cons_of_ne_nil (hrows _ _ _), ← numbered_window hlast]
    rfl

theorem text_ofLines_blank :
    let lines : List Text := ["if x", "quit", "", "\t "]
    1 ≤ 4 ∧ 4 ≤ lines.length ∧ (∀ line ∈ lines, '\n' ∉ line) ∧ lines ≠ [[]] ∧
      (Context.ofLines (.ofText "s.txt") lines (4 : Nat)).text =
        "s.txt:4:3\n   2 | quit\n   3 | \n   4 | \t \n         ^^^" := by
  intro lines
  have hlast : 4 ≤ lines.length := by decide
  have hbreak : ∀ line ∈ lines, '\n' ∉ line := by decide
  have hsingle : lines ≠ [[]] := by decide
  obtain ⟨i, hi, htext, -⟩ := text_ofLines (.ofText "s.txt") (by decide) hlast hbreak hsingle
  have htwo : i = 2 := (blankUpTo_iff.1 hi).trans (by decide)
  rw [htwo] at htext
  exact ⟨by decide, hlast, hbreak, hsingle, htext.trans (by decide +kernel)⟩

end BattleScript.Diagnostic
