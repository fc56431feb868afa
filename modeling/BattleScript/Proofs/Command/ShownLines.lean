import BattleScript.Command.Run
import BattleScript.Proofs.Diagnostic.Snippet
import BattleScript.Proofs.Names.LineVerdicts
import BattleScript.Proofs.Script.Accounting
import BattleScript.Proofs.Text.Newline
import BattleScript.Proofs.Text.Utf8

/-!
The lines that reports point at. A report is about a line of the script as it was read, which ends at a
line feed, and it shows a line of the file with every line end counted. The two are the same as long as
no earlier line has a carriage return inside it.
-/
namespace BattleScript.Text.Utf8

theorem map_of_strict {ps : List Piece} {t : Text} (h : strict ps = .ok t) :
    (ps.map fun
      | .char c => c
      | .fault _ => Char.ofNat 0xFFFD) = t := by
  induction ps generalizing t with
  | nil =>
    cases h
    rfl
  | cons p ps ih =>
    cases p with
    | char c =>
      rw [strict] at h
      cases hps : strict ps with
      | ok t' =>
        rw [hps] at h
        cases h
        rw [List.map_cons, ih hps]
      | error f =>
        rw [hps] at h
        cases h
    | fault f => cases h

theorem decodeLossy_of_decode {bytes : Bytes} {t : Text} (h : decode bytes = .ok t) :
    decodeLossy bytes = t :=
  map_of_strict h

end BattleScript.Text.Utf8

namespace BattleScript.Command
open Text Files Script Names Diagnostic

/-- A report on `nodes` is about line `n`: there is a problem at it, or a verdict on a name in it. -/
def Reported (nodes : List Node) (n : Int) : Prop :=
  (∃ p ∈ Node.problemsAll nodes, p.line = n) ∨
    ∃ r verdicts v, verifyTree r nodes = .ok verdicts ∧ (n, v) ∈ verdicts

def HasLine (lines : List Text) (n : Int) : Prop :=
  ∃ (k : Nat) (line : Text), n = k + 1 ∧ lines[k]? = some line

section Lines
variable {lines : List Text}

theorem hasLine_of_mem_zipIdx {p : Line × Nat} (h : p ∈ (lines.map Line.ofText).zipIdx 1) :
    HasLine lines p.2 := by
  obtain ⟨hfirst, hline⟩ := List.mem_zipIdx_iff_le_and_getElem?_sub.1 h
  rw [List.getElem?_map, Option.map_eq_some_iff] at hline
  obtain ⟨line, hline, -⟩ := hline
  exact ⟨p.2 - 1, line, by omega, hline⟩

theorem hasLine_of_mem_filter {q : Line × Nat → Bool} {k : Nat}
    (h : k ∈ (((lines.map Line.ofText).zipIdx 1).filter q).map Prod.snd) : HasLine lines k := by
  obtain ⟨p, hp, rfl⟩ := List.mem_map.1 h
  exact hasLine_of_mem_zipIdx (List.mem_of_mem_filter hp)

theorem hasLine_of_problem {p : Problem} (h : p ∈ Node.problemsAll (parseLines lines)) :
    HasLine lines p.line := by
  have hproblems : Node.problemsAll (parseLines lines) = _ := problemsAll_ofLines (lines.map Line.ofText)
  rw [hproblems] at h
  rcases List.mem_append.1 h with h | h
  · obtain ⟨k, hk, rfl⟩ := List.mem_map.1 h
    exact hasLine_of_mem_filter hk
  · obtain ⟨k, hk, rfl⟩ := List.mem_map.1 h
    exact hasLine_of_mem_filter (List.mem_reverse.1 hk)

theorem hasLine_of_verdict {r : Resolver} {verdicts : List (Int × Verdict)} {n : Int} {v : Verdict}
    (h : verifyTree r (parseLines lines) = .ok verdicts) (hv : (n, v) ∈ verdicts) : HasLine lines n := by
  rw [verifyTree_eq, treeReferences_parseLines] at h
  have hn := (sublist_of_verifyLines h).subset (List.mem_map.2 ⟨_, hv, rfl⟩)
  obtain ⟨⟨n, ref⟩, href, rfl⟩ := List.mem_map.1 hn
  obtain ⟨p, hp, hline⟩ := List.mem_flatMap.1 href
  obtain ⟨_, _, heq⟩ := List.mem_map.1 hline
  cases heq
  exact hasLine_of_mem_zipIdx hp

theorem Reported.hasLine {n : Int} (h : Reported (parseLines lines) n) : HasLine lines n := by
  rcases h with ⟨p, hp, rfl⟩ | ⟨r, verdicts, v, hverdicts, hv⟩
  · exact hasLine_of_problem hp
  · exact hasLine_of_verdict hverdicts hv

end Lines

theorem takeWhile_of_returns {body returns : Text} (hbody : '\r' ∉ body)
    (hreturns : ∀ c ∈ returns, c = '\r') :
    (body ++ returns).takeWhile (· ≠ '\r') = body := by
  have hpass : ∀ c ∈ body, decide (c ≠ '\r') = true := by
    intro c hc
    exact decide_eq_true fun h => hbody (h ▸ hc)
  rw [List.takeWhile_append_of_pos hpass]
  cases returns with
  | nil => exact List.append_nil body
  | cons c returns =>
    have hc : c = '\r' := hreturns c (List.mem_cons_self ..)
    subst hc
    exact List.append_nil body

/-- The front of the line that a report is about is shown further down by as many lines as there are
carriage returns inside earlier lines. Where there are none, and those of the line itself are at its end,
the report shows the line and points at its first column. -/
theorem shownLines_reported {path : Path} {bytes : Bytes} {nodes : List Node} {notes : List Note}
    {n : Int} (hread : readBytes path bytes = .ok (nodes, notes)) (hn : Reported nodes n) :
    ∃ text, Utf8.decode bytes = .ok text ∧
      ∃ (k : Nat) (line : Text), n = k + 1 ∧ (splitOn '\n' text)[k]? = some line ∧
        (shownLines bytes)[k + innerReturns ((splitOn '\n' text).take k)]? =
          some (line.takeWhile (· ≠ '\r')) ∧
        ∀ body returns, line = body ++ returns → '\r' ∉ body → (∀ c ∈ returns, c = '\r') →
          innerReturns ((splitOn '\n' text).take k) = 0 →
            (shownLines bytes)[k]? = some body ∧
              (Context.ofLines path (shownLines bytes) n).column = firstColumn body := by
  cases hdecode : Utf8.decode bytes with
  | error fault =>
    rw [readBytes, hdecode] at hread
    cases hread
  | ok text =>
    rw [readBytes, hdecode] at hread
    have hnodes : parseLines (splitOn '\n' text) = nodes := congrArg Prod.fst (Except.ok.inj hread)
    obtain ⟨k, line, rfl, hline⟩ := Reported.hasLine (hnodes ▸ hn)
    have hshown : shownLines bytes = recut (splitOn '\n' text) := by
      rw [shownLines, Utf8.decodeLossy_of_decode hdecode, splitOn_unifyNewlines]
    have hfront : (shownLines bytes)[k + innerReturns ((splitOn '\n' text).take k)]? =
        some (line.takeWhile (· ≠ '\r')) := hshown ▸ getElem?_recut hline
    refine ⟨text, rfl, k, line, rfl, hline, hfront, ?_⟩
    rintro body returns rfl hbody hreturns hnone
    rw [hnone, Nat.add_zero, takeWhile_of_returns hbody hreturns] at hfront
    exact ⟨hfront, column_ofLines hfront path⟩

theorem readBytes_encode (path : Path) (t : Text) :
    readBytes path (Utf8.encode t) = .ok (readLines (splitOn '\n' t)) := by
  rw [readBytes, Utf8.decode_encode]

theorem shownLines_reported_both :
    let bytes := Utf8.encode "quit\r\n   if x\r"
    Reported (parseLines (splitOn '\n' "quit\r\n   if x\r")) 2 ∧
      (shownLines bytes)[1]? = some (Text.of "   if x") ∧
      (Context.ofLines (.ofText "s.txt") (shownLines bytes) 2).column = 4 := by
  intro bytes
  have hproblem : ∃ p ∈ Node.problemsAll (parseLines (splitOn '\n' "quit\r\n   if x\r")),
      p.line = 2 := by
    decide +kernel
  obtain ⟨text, htext, k, line, hk, hline, -, hshown⟩ :=
    shownLines_reported (readBytes_encode (.ofText "s.txt") "quit\r\n   if x\r") (.inl hproblem)
  rw [Utf8.decode_encode] at htext
  cases htext
  obtain rfl : k = 1 := by omega
  cases hline
  have hbody : '\r' ∉ Text.of "   if x" := by decide +kernel
  have hreturns : ∀ c ∈ ['\r'], c = '\r' := fun c hc => List.mem_singleton.1 hc
  exact ⟨.inl hproblem, hshown "   if x" ['\r'] (by decide +kernel) hbody hreturns (by decide +kernel)⟩

/-- After a lone carriage return, the report on the second line shows what follows that. -/
theorem shownLines_after_return :
    let bytes := Utf8.encode "quit\rquit\n   if x"
    let lines := splitOn '\n' "quit\rquit\n   if x"
    readBytes (.ofText "s.txt") bytes = .ok (readLines lines) ∧ Reported (parseLines lines) 2 ∧
      lines[1]? = some (Text.of "   if x") ∧ (shownLines bytes)[1]? = some (Text.of "quit") ∧
      (Context.ofLines (.ofText "s.txt") (shownLines bytes) 2).column = 1 ∧ firstColumn "   if x" = 4 := by
  refine ⟨readBytes_encode _ _, .inl ?_, ?_⟩ <;> decide +kernel

end BattleScript.Command
