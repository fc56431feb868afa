import BattleScript.Proofs.Script.Brackets
import BattleScript.Proofs.Script.Composition

/-!
Trees written out as lines. A line is written from what it was read as: its indent in spaces, its command
and its condition. Each written line is read as it was before, so what has been read of a script, blocks
still open included, is read again from its own lines; only the line numbers are new.
-/
namespace BattleScript.Script
open Text

def LineKind.written : LineKind → Text
  | .skip => []
  | .separator => "--"
  | .head none => "if x"
  | .head (some condition) => "if [" ++ condition ++ "]"
  | .endif => "endif"
  | .action command none => command
  | .action command (some condition) => command ++ "[" ++ condition ++ "]"

def LineKind.indented (indent : Nat) (kind : LineKind) : Text :=
  List.replicate indent ' ' ++ kind.written

namespace Node

mutual

/-- The lines of a tree. A block is ended if it is closed, and errors about unclosed blocks are left
out. -/
def render : Node → List Text
  | .separator indent => [LineKind.separator.indented indent]
  | .action a => [(LineKind.action a.command a.conditionRaw).indented a.indent]
  | .error message _ => if message = malformedMessage then [(LineKind.head none).written] else []
  | .block head children =>
    (LineKind.head (some head.conditionRaw)).indented head.indent :: renderAll children ++
      if head.endLine.isSome then [LineKind.endif.written] else []

def renderAll : List Node → List Text
  | [] => []
  | n :: ns => render n ++ renderAll ns

end

theorem renderAll_append (as bs : List Node) :
    renderAll (as ++ bs) = renderAll as ++ renderAll bs := by
  induction as with
  | nil => rfl
  | cons n as ih => rw [List.cons_append, renderAll, ih, renderAll, List.append_assoc]

/-- The tree with its line numbers erased, also those that messages quote. Blocks are still closed or
not. -/
def unnumbered (ns : List Node) : List Node :=
  renumberAll (fun _ => 0) ns

end Node

structure LineKind.Stable (kind : LineKind) : Prop where
  kindOf_written : Line.kindOf kind.written = kind
  trimmed : Trimmed kind.written

namespace LineKind

theorem stable_skip : (skip).Stable := ⟨by decide, by decide⟩

theorem stable_separator : (separator).Stable := ⟨by decide, by decide⟩

theorem stable_endif : (endif).Stable := ⟨by decide, by decide⟩

theorem stable_malformed : (head none).Stable := ⟨by decide, by decide⟩

theorem trimmed_brackets {c : Char} (hc : isBlank c = false) (t condition : Text) :
    Trimmed (c :: t ++ "[" ++ condition ++ "]") := by
  have hlast : (c :: t ++ "[" ++ condition ++ "]").getLast? = some ']' := List.getLast?_concat
  refine ⟨?_, ?_⟩
  · rintro d ⟨⟩
    exact hc
  · rw [hlast]
    rintro d ⟨⟩
    decide

theorem stable_head {condition : Text} (htrim : Trimmed condition) (hline : '\n' ∉ condition) :
    (head (some condition)).Stable := by
  have hwritten : (head (some condition)).written = Text.of "if" ++ ' ' :: '[' :: (condition ++ [']']) :=
    rfl
  have hcondition : Line.headCondition (head (some condition)).written = some condition := by
    have hinside := Line.inBrackets_trimLeft_blank (w := []) nofun hline
    have hblank : isBlank ' ' = true := by decide
    rw [List.nil_append] at hinside
    simp only [hwritten, Line.headCondition, after?_append, hblank, if_true, hinside, Option.map_some,
      htrim.trim_eq]
  have hstart : startsWith (head (some condition)).written "if " = true := startsWith_append "if " _
  refine ⟨?_, trimmed_brackets (by decide) "f " condition⟩
  rw [Line.kindOf, if_neg (by rw [hwritten]; simp [Text.of]),
    if_neg (by rw [hwritten]; simp [Text.of]), if_pos hstart, hcondition]

theorem prefix_command {p command : Text} (hp : '[' ∉ p) {condition : Text}
    (h : p <+: command ++ "[" ++ condition ++ "]") : p <+: command := by
  rw [List.append_assoc, List.append_assoc] at h
  rcases List.prefix_or_prefix_of_prefix h (List.prefix_append command _) with hshort | ⟨q, rfl⟩
  · exact hshort
  · rw [List.prefix_append_right_inj] at h
    cases q with
    | nil => exact (List.append_nil command).symm ▸ List.prefix_rfl
    | cons c q =>
      obtain ⟨rfl, -⟩ := List.cons_prefix_cons.1 h
      exact absurd (List.mem_append_right _ (List.mem_cons_self ..)) hp

theorem stable_action {t command condition : Text} (ht : Trimmed t) (hline : '\n' ∉ t)
    (hcomment : t.head? ≠ some '#') (hhead : ¬ startsWith t "if ")
    (hcut : Line.cutCondition t = some (command, condition)) :
    (action (trim command) (some (trim condition))).Stable := by
  have hcutEnds := (Line.cutCondition_eq_some_iff hline).1 hcut
  have hcommand : trim command = command := (hcutEnds.trimmed_command ht).trim_eq
  obtain ⟨hne, hbracket, htight, w, hw, rfl⟩ := hcutEnds
  obtain ⟨c, r, rfl⟩ := List.exists_cons_of_ne_nil hne
  have hc : isBlank c = false := ht.left c rfl
  have hwritten : (action (trim (c :: r)) (some (trim condition))).written =
      c :: r ++ "[" ++ trim condition ++ "]" := by
    rw [hcommand]
    rfl
  have hends : Line.EndsInBrackets (c :: r ++ "[" ++ trim condition ++ "]") (c :: r) (trim condition) :=
    ⟨hne, hbracket, htight, [], nofun, by rw [List.append_assoc, List.append_assoc]; rfl⟩
  have hnewline : '\n' ∉ c :: r ++ "[" ++ trim condition ++ "]" := by
    have hfront : '\n' ∉ c :: r := fun hmem => hline (List.mem_append_left _ hmem)
    have hcondition := not_mem_trim (Line.not_mem_of_not_mem_brackets hline)
    have hbrackets : '\n' ∉ Text.of "[" ∧ '\n' ∉ Text.of "]" := by decide
    simp only [List.mem_append, hfront, hbrackets, hcondition, or_self, not_false_eq_true]
  have hstart : ¬ startsWith (c :: r ++ "[" ++ trim condition ++ "]") "if " := by
    intro h
    have hstarts := prefix_command (by decide) (startsWith_iff.1 h)
    exact hhead (startsWith_iff.2 (hstarts.trans (List.prefix_append _ _)))
  refine ⟨?_, ?_⟩
  · rw [hwritten, Line.kindOf_of_endsInBrackets hnewline hcomment hstart hends,
      (trimmed_trim condition).trim_eq]
  · rw [hwritten]
    exact trimmed_brackets hc r (trim condition)

theorem stable_kindOf {t : Text} (ht : Trimmed t) (hline : '\n' ∉ t) : (Line.kindOf t).Stable := by
  unfold Line.kindOf
  split_ifs with hskip hseparator hhead hendif
  · exact stable_skip
  · exact stable_separator
  · cases hcondition : Line.headCondition t with
    | none => exact stable_malformed
    | some condition =>
      unfold Line.headCondition at hcondition
      split at hcondition
      · split at hcondition
        · obtain ⟨inside, hinside, rfl⟩ := Option.map_eq_some_iff.1 hcondition
          have hnewline := (Line.inBrackets_eq_some_iff.1 hinside).2
          exact stable_head (trimmed_trim inside) (not_mem_trim hnewline)
        · cases hcondition
      · cases hcondition
  · exact stable_endif
  · obtain ⟨-, hcomment⟩ := not_or.1 hskip
    cases hcut : Line.cutCondition t with
    | some cut => exact stable_action ht hline hcomment hhead hcut
    | none =>
      refine ⟨?_, ht⟩
      rw [written, Line.kindOf, if_neg hskip, if_neg hseparator, if_neg hhead, if_neg hendif, hcut]

end LineKind

theorem Line.indentOf_replicate (indent : Nat) {c : Char} (hc : isBlank c = false) (t : Text) :
    Line.indentOf (List.replicate indent ' ' ++ c :: t) = indent := by
  induction indent with
  | zero =>
    unfold Line.indentOf
    split
    · rename_i hspace
      cases hspace
      exact absurd hc (by decide)
    · rename_i htab
      cases htab
      exact absurd hc (by decide)
    · rfl
  | succ n ih => rw [List.replicate_succ, List.cons_append, Line.indentOf, ih, Nat.add_comm]

theorem LineKind.Stable.ofText_indented {kind : LineKind} (h : kind.Stable) (hskip : kind ≠ .skip)
    (indent : Nat) : Line.ofText (kind.indented indent) = ⟨indent, kind.written, kind⟩ := by
  have hspaces : ∀ c ∈ List.replicate indent ' ', isBlank c := by
    intro c hc
    rw [List.eq_of_mem_replicate hc]
    decide
  obtain ⟨c, t, hct⟩ : ∃ c t, kind.written = c :: t := by
    refine List.exists_cons_of_ne_nil fun hnil => hskip ?_
    rw [← h.kindOf_written, hnil]
    rfl
  have hc : isBlank c = false := h.trimmed.left c (by rw [hct]; rfl)
  have hright : trimRight (kind.indented indent) = kind.indented indent := by
    apply trimRight_eq_self
    intro d hd
    apply h.trimmed.right d
    rw [LineKind.indented, hct, List.getLast?_append_of_ne_nil _ (List.cons_ne_nil c t)] at hd
    rwa [hct]
  have htrim : trim (kind.indented indent) = kind.written := by
    rw [LineKind.indented, trim_append_left hspaces, h.trimmed.trim_eq]
  have hindent : Line.indentOf (kind.indented indent) = indent := by
    rw [LineKind.indented, hct, Line.indentOf_replicate indent hc]
  rw [Line.ofText, hright, htrim, hindent, h.kindOf_written]

theorem LineKind.Stable.ofText_written {kind : LineKind} (h : kind.Stable) (hskip : kind ≠ .skip) :
    Line.ofText kind.written = ⟨0, kind.written, kind⟩ :=
  h.ofText_indented hskip 0

def renderOpened : List OpenBlock → List Text
  | [] => []
  | o :: os =>
    renderOpened os ++ Node.renderAll o.before ++ [(LineKind.head (some o.condition)).indented o.indent]

def Line.rendering (depth : Nat) (l : Line) : List Text :=
  match l.kind with
  | .skip => []
  | .head none => [(LineKind.head none).written]
  | .endif => if depth = 0 then [] else [LineKind.endif.written]
  | kind => [kind.indented l.indent]

theorem unterminatedMessage_ne_malformedMessage (line : Nat) :
    unterminatedMessage line ≠ malformedMessage := by
  intro h
  have hquoted := quotedLine?_unterminatedMessage line
  rw [h, quotedLine?_malformedMessage] at hquoted
  cases hquoted

namespace Reading

def rendered (s : Reading) : List Text :=
  renderOpened s.opened ++ Node.renderAll s.nodes

theorem renderAll_unwind (nodes : List Node) (notes : List Note) (os : List OpenBlock) :
    Node.renderAll (unwind nodes notes os).1 = renderOpened os ++ Node.renderAll nodes := by
  induction os generalizing nodes notes with
  | nil => rfl
  | cons o os ih =>
    have hpair : Node.renderAll [o.close nodes none, .error (unterminatedMessage o.line) o.line] =
        (LineKind.head (some o.condition)).indented o.indent :: Node.renderAll nodes := by
      simp only [Node.renderAll, Node.render, OpenBlock.close, Option.map_none, Option.isSome_none,
        Bool.false_eq_true, if_false, unterminatedMessage_ne_malformedMessage, List.append_nil]
    rw [unwind, ih, Node.renderAll_append, hpair, renderOpened]
    simp only [List.append_assoc, List.singleton_append]

theorem renderAll_finish (s : Reading) : Node.renderAll s.finish.1 = s.rendered :=
  renderAll_unwind s.nodes s.notes s.opened

theorem rendered_push (s : Reading) (n : Node) : (s.push n).rendered = s.rendered ++ n.render := by
  simp only [rendered, push, Node.renderAll_append, Node.renderAll, List.append_nil, List.append_assoc]

theorem rendered_step (s : Reading) (number : Nat) (l : Line) :
    (s.step number l).rendered = s.rendered ++ l.rendering s.opened.length := by
  obtain ⟨indent, text, kind⟩ := l
  cases kind with
  | skip => exact (List.append_nil _).symm
  | separator => exact rendered_push s (.separator indent)
  | head condition =>
    cases condition with
    | none => exact rendered_push s (.error malformedMessage number)
    | some condition => exact List.append_nil _
  | endif =>
    obtain ⟨nodes, opened, notes⟩ := s
    cases opened with
    | nil => exact (List.append_nil _).symm
    | cons o os =>
      simp only [step, rendered, Node.renderAll_append, Node.renderAll, Node.render, OpenBlock.close,
        Option.map_some, Option.isSome_some, if_true, List.append_nil, renderOpened, Line.rendering,
        List.length_cons, Nat.add_one_ne_zero, if_false, List.append_assoc, List.cons_append,
        List.nil_append]
  | action command condition =>
    exact rendered_push s (.action (Action.ofCommand command condition indent number))

def silent (s : Reading) : Reading :=
  { s with notes := [] }

def bare (s : Reading) : Reading :=
  (s.renumber fun _ => 0).silent

theorem silent_step (s : Reading) (number : Nat) (l : Line) :
    (s.step number l).silent = (s.silent.step number l).silent := by
  obtain ⟨indent, text, kind⟩ := l
  cases kind with
  | head condition => cases condition <;> rfl
  | endif =>
    obtain ⟨nodes, opened, notes⟩ := s
    cases opened <;> rfl
  | _ => rfl

theorem bare_step (s : Reading) (number : Nat) (l : Line) :
    (s.step number l).bare = (s.bare.step 0 l).silent := by
  have hstep : (s.renumber fun _ => 0).step 0 l = (s.step number l).renumber fun _ => 0 :=
    step_renumber (fun _ => le_rfl) s rfl l
  rw [bare, ← hstep, silent_step]
  rfl

theorem silent_step_congr (s : Reading) {l l' : Line} (hkind : l'.kind = l.kind)
    (hindent : l'.indent = l.indent ∨ l.kind = .endif ∨ l.kind = .head none) :
    (s.step 0 l').silent = (s.step 0 l).silent := by
  obtain ⟨indent, text, kind⟩ := l
  obtain ⟨indent', text', kind'⟩ := l'
  cases hkind
  rcases hindent with hindent | hindent | hindent
  · cases hindent
    cases kind with
    | head condition => cases condition <;> rfl
    | _ => rfl
  · cases hindent
    rfl
  · cases hindent
    rfl

theorem bare_run_singleton {s s' : Reading} (h : s'.bare = s.bare) (number number' : Nat)
    {l l' : Line} (hkind : l'.kind = l.kind)
    (hindent : l'.indent = l.indent ∨ l.kind = .endif ∨ l.kind = .head none) :
    (s'.run number' [l']).bare = (s.step number l).bare := by
  rw [run, run, bare_step, h, bare_step, silent_step_congr _ hkind hindent]

theorem unnumbered_finish (s : Reading) : Node.unnumbered s.finish.1 = s.bare.finish.1 := by
  have hfinish := finish_renumber (f := fun _ => 0) (fun _ => le_rfl) s
  have hnotes (nodes : List Node) (notes notes' : List Note) (os : List OpenBlock) :
      (unwind nodes notes os).1 = (unwind nodes notes' os).1 := by
    induction os generalizing nodes notes notes' with
    | nil => rfl
    | cons o os ih => exact ih _ _ _
  exact (congrArg Prod.fst hfinish).symm.trans (hnotes _ _ _ _)

def ReadsBack (s : Reading) : Prop :=
  (ofLines (s.rendered.map Line.ofText)).bare = s.bare

theorem bare_run_rendering {s s' : Reading} (h : s'.bare = s.bare) (number number' : Nat) {l : Line}
    (hl : l.kind.Stable) :
    (s'.run number' ((l.rendering s.opened.length).map Line.ofText)).bare = (s.step number l).bare := by
  obtain ⟨indent, text, kind⟩ := l
  have hread (hskip : kind ≠ .skip) :
      (s'.run number' [Line.ofText (kind.indented indent)]).bare =
        (s.step number ⟨indent, text, kind⟩).bare := by
    rw [hl.ofText_indented hskip]
    exact bare_run_singleton h number number' rfl (.inl rfl)
  cases kind with
  | skip => exact h
  | separator => exact hread (by simp)
  | head condition =>
    cases condition with
    | some condition => exact hread (by simp)
    | none =>
      rw [Line.rendering, List.map_singleton, hl.ofText_written (by simp)]
      exact bare_run_singleton h number number' rfl (.inr (.inr rfl))
  | action command condition => exact hread (by simp)
  | endif =>
    by_cases hdepth : s.opened.length = 0
    · -- A stray `endif` leaves nothing but a note.
      have hstray : (s.step number ⟨indent, text, .endif⟩).bare = s.bare := by
        rw [step, List.length_eq_zero_iff.1 hdepth]
        rfl
      rw [hstray, Line.rendering, if_pos hdepth]
      exact h
    · rw [Line.rendering, if_neg hdepth, List.map_singleton, hl.ofText_written (by simp)]
      exact bare_run_singleton h number number' rfl (.inr (.inl rfl))

theorem ReadsBack.step {s : Reading} (h : s.ReadsBack) (number : Nat) {l : Line}
    (hl : l.kind.Stable) : (s.step number l).ReadsBack := by
  rw [ReadsBack, rendered_step, List.map_append, ofLines, run_append]
  exact bare_run_rendering h number _ hl

theorem ReadsBack.run {s : Reading} (h : s.ReadsBack) (number : Nat) {ls : List Line}
    (hls : ∀ l ∈ ls, l.kind.Stable) : (s.run number ls).ReadsBack := by
  induction ls generalizing s number with
  | nil => exact h
  | cons l ls ih =>
    obtain ⟨hl, hls⟩ := List.forall_mem_cons.1 hls
    exact ih (h.step number hl) (number + 1) hls

end Reading

theorem stable_ofText {line : Text} (h : '\n' ∉ line) : (Line.ofText line).kind.Stable := by
  rw [Line.ofText, trim_trimRight]
  exact LineKind.stable_kindOf (trimmed_trim line) (not_mem_trim h)

/-- The lines of the tree of any script are read as the same tree, but for line numbers. -/
theorem parseLines_renderAll (script : Text) :
    Node.unnumbered (parseLines (Node.renderAll (parseText script))) =
      Node.unnumbered (parseText script) := by
  have hstable : ∀ l ∈ (splitOn '\n' script).map Line.ofText, l.kind.Stable := by
    intro l hl
    obtain ⟨line, hline, rfl⟩ := List.mem_map.1 hl
    exact stable_ofText (not_mem_of_mem_splitOn hline)
  have hstart : (Reading.start).ReadsBack := rfl
  have hback := hstart.run 1 hstable
  rw [Reading.ReadsBack, ← Reading.renderAll_finish] at hback
  calc Node.unnumbered (parseLines (Node.renderAll (parseText script)))
    _ = (Reading.ofLines ((Node.renderAll (parseText script)).map Line.ofText)).bare.finish.1 :=
        Reading.unnumbered_finish _
    _ = (Reading.ofLines ((splitOn '\n' script).map Line.ofText)).bare.finish.1 :=
        congrArg (·.finish.1) hback
    _ = Node.unnumbered (parseText script) := (Reading.unnumbered_finish _).symm

example : Node.renderAll (parseText "\tif  [ a] b ]\n  endif [c]\nendif\nendif\nif [d]") =
    ["    if [a] b]", "  endif[c]", "endif", "if [d]"] := by decide +kernel

end BattleScript.Script
