import MigrationScript.Proofs.CodeEnd
import MigrationScript.Proofs.Layout
import MigrationScript.Proofs.Roles

/-!
Statements with the delimiter that ended them and without it. Removing delimiters changes neither
the number of statements nor their line numbers, and from a text it takes the delimiter and white
space only.
-/
namespace MigrationScript

open Text

namespace Progress.Layout

variable {d : Dialect} {n : Int} {g : Gap} {lines : List Text} {ss : List Draft}

/-- A delimiter that a statement was given from outside was set by a directive. -/
theorem sets_override (h : Layout d n g lines ss) (hg : g.SetByDirective d) :
    ∀ s ∈ ss, ∀ x, s.override = some x → d.Sets x := by
  induction h with
  | done => simp
  | @dropped n g line lines ss role rest ih => exact ih (hg.after line)
  | @ended n g first more lines ss role ends rest ih =>
    intro s hs
    rcases List.mem_cons.mp hs with rfl | hs
    · intro x hx
      rw [Draft.override_addAll] at hx
      exact hg x hx
    · exact ih hg s hs
  | leftOpen role opens =>
    intro s hs x hx
    obtain rfl := List.mem_singleton.mp hs
    rw [Draft.override_addAll] at hx
    exact hg x hx

/-- Only the last statement may be left open. -/
theorem terminated_dropLast (h : Layout d n g lines ss) :
    ∀ s ∈ ss.dropLast, s.terminated = true := by
  induction h with
  | done => simp
  | dropped role rest ih => exact ih
  | @ended n g first more lines ss role ends rest ih =>
    intro s hs
    by_cases hn : ss = []
    · simp [hn] at hs
    · rw [List.dropLast_cons_of_ne_nil hn] at hs
      rcases List.mem_cons.mp hs with rfl | hs
      · exact ends.last
      · exact ih s hs
  | leftOpen role opens => simp

end Progress.Layout

theorem Progress.sets_override_drafts (d : Dialect) (lines : List Text) :
    ∀ s ∈ drafts d {} lines, ∀ x, s.override = some x → d.Sets x :=
  (layout_drafts d 1 {} lines).sets_override (Gap.setByDirective_start d)

namespace Scan

theorem plainCode_of_blank {s : Scan} (h : ∀ c ∈ s.code, isBlank c = true) : s.plainCode = [] := by
  have hmap : ∀ c ∈ s.code.map fun c => if c = '\t' then ' ' else c, isBlank c = true := by
    intro c hc
    obtain ⟨e, he, rfl⟩ := List.mem_map.mp hc
    split
    · decide
    · exact h e he
  have htrim : trim (s.code.map fun c => if c = '\t' then ' ' else c) = [] :=
    trimEnd_of_blank fun c hc => hmap c ((List.dropWhile_sublist _).subset hc)
  rw [plainCode, htrim, upper_nil]

end Scan

namespace Draft

variable {d : Dialect} {s : Draft} {line last : Text} {earlier : List Text}

/-- A delimiter from outside keeps a statement from becoming special. -/
theorem special_addAll (h : s.override.isSome = true) (lines : List Text) :
    (s.addAll d lines).special = s.special := by
  induction lines generalizing s with
  | nil => rfl
  | cons line lines ih =>
    have hn : s.override.isNone = false := by simpa using h
    rw [addAll_cons, ih (s := s.add d line) h]
    simp [add, hn]

/-- A statement that ends at a delimiter that need not be alone holds no data. -/
theorem readsData_of_not_alone (hs : s.special = false)
    (h : ((s.addAll d (earlier ++ [last])).delimiter d).alone = false) :
    (s.addAll d earlier).readsData d = false := by
  rw [← Bool.not_eq_true]
  intro hdata
  obtain ⟨hd, hspecial⟩ := Bool.and_eq_true_iff.mp hdata
  have ho : s.override = none := by
    rw [← Option.not_isSome_iff_eq_none]
    intro ho
    rw [special_addAll ho, hs] at hspecial
    contradiction
  rw [addAll_concat, delimiter, override_add, override_addAll, ho, special_add hspecial] at h
  cases d <;> contradiction

theorem delimiter_text_ne_nil (ho : ∀ x, s.override = some x → d.Sets x) :
    (s.delimiter d).text ≠ [] := by
  unfold delimiter
  cases hx : s.override with
  | some x => exact (ho x hx).text_ne_nil
  | none =>
    cases d <;> simp [Dialect.delimiter, Dialect.specialDelimiter, Delimiter.semicolon] <;>
      split <;> simp

/-- A line that a delimiter makes up is not blank. -/
theorem trimEnd_ne_nil_of_ends {x : Delimiter} (ha : x.alone = true) (hx : x.text ≠ [])
    (h : x.ends (s.scan d last).plainCode = true) : trimEnd last ≠ [] := by
  intro hn
  have hblank := (dropEnd_eq_nil_iff isBlank last).mp hn
  have hcode := Scan.plainCode_of_blank fun c hc => hblank c (code_scan_subset d s last hc)
  rw [hcode, Delimiter.ends, if_pos ha, beq_iff_eq] at h
  exact upper_ne_nil hx h.symm

theorem dropLastLine_joinLines (hne : trimEnd last ≠ [])
    (hl : ∀ line ∈ earlier ++ [last], '\n' ∉ line) :
    dropLastLine (joinLines (earlier ++ [last])) = trimEnd (joinLines earlier) := by
  have htrim : trimEnd (joinLines (earlier ++ [last])) = joinLines (earlier ++ [trimEnd last]) := by
    rw [joinLines_concat, joinLines_concat, trimEnd_append hne]
  have hmem : ∀ line ∈ earlier ++ [trimEnd last], '\n' ∉ line := by
    intro line hline
    rcases List.mem_append.mp hline with hline | hline
    · exact hl line (List.mem_append_left _ hline)
    · obtain rfl := List.mem_singleton.mp hline
      obtain ⟨w, hw, -⟩ := dropEnd_append isBlank last
      intro hn
      refine hl last (by simp) ?_
      rw [hw]
      exact List.mem_append_left w hn
  rw [dropLastLine, htrim, pieces_joinLines (by simp) hmem, List.dropLast_concat]

/-- The semicolon before `tail` is the last character of a last line's code that is not white
space. -/
def EndsWithSemicolon (d : Dialect) (s : Draft) (earlier : List Text) (front tail : Text) : Prop :=
  ∃ ps qs, LastSolid (scanFrom d (s.addAll d earlier).mode none (front ++ ';' :: tail)).1
    ps (.code ';') qs ∧ ps.flatMap Piece.text = front ∧ qs.flatMap Piece.text = tail

/-- A statement that ends at a semicolon has it where the code of its last line ends. -/
theorem exists_endsWithSemicolon (ha : s.Assembled d) (ht : s.terminated = true)
    (hx : s.delimiter d = .semicolon) :
    ∃ earlier front tail, s.lines = earlier ++ [front ++ ';' :: tail] ∧
      s.origin.EndsWithSemicolon d earlier front tail ∧ s.stop = front.length + 1 := by
  obtain ⟨earlier, last, hlines, hmode, -, hends⟩ := (ha.ends ht).exists_last
  have heq : s.origin.addAll d (earlier ++ [last]) = s := by rw [← hlines, ha.eq]
  have hdata : (s.origin.addAll d earlier).readsData d = false :=
    readsData_of_not_alone rfl (by rw [heq, hx]; rfl)
  have hscan : (s.origin.addAll d earlier).scan d last =
      .ofLine d (s.origin.addAll d earlier).mode last := by
    rw [scan, hdata]
    rfl
  rw [hlines, addAll_concat, mode_add, hscan] at hmode
  rw [ha.eq, hx, hscan] at hends
  have hm : (s.origin.addAll d earlier).mode.Proper := proper_addAll (s := s.origin) trivial earlier
  obtain ⟨ps, qs, hp⟩ := Scan.exists_semicolon hm hmode hends
  have htext : ps.flatMap Piece.text ++ ';' :: qs.flatMap Piece.text = last := by
    have h := text_scanFrom d (s.origin.addAll d earlier).mode none last
    rw [hp.eq] at h
    simpa [Piece.text] using h
  have hstop : s.stop = Piece.codeEnd (scanFrom d (s.origin.addAll d earlier).mode none last).1 :=
    calc s.stop
      _ = (s.origin.addAll d (earlier ++ [last])).stop := by rw [heq]
      _ = ((s.origin.addAll d earlier).scan d last).stop := by rw [addAll_concat, stop_add]
      _ = _ := by rw [hscan]; rfl
  refine ⟨earlier, _, _, by rw [htext, hlines], ⟨ps, qs, by rw [htext]; exact hp, rfl, rfl⟩, ?_⟩
  rw [hstop, Piece.codeEnd_of_lastSolid hp]
  rfl

theorem strippedText_of_semicolon {front tail : Text} (hx : s.delimiter d = .semicolon)
    (hlines : s.lines = earlier ++ [front ++ ';' :: tail]) (hstop : s.stop = front.length + 1) :
    s.holdsDelimiter d = true ∧
      s.strippedText d = trimEnd (earlier.flatMap (· ++ ['\n']) ++ (trimEnd front ++ tail)) := by
  have hlast : s.lastLine = front ++ ';' :: tail := by simp [lastLine, hlines]
  have htake : s.lastLine.take (front.length + 1) = front ++ [';'] := by
    rw [hlast, List.take_length_add_append]
    rfl
  have hdrop : s.lastLine.drop (front.length + 1) = tail := by
    rw [hlast, List.drop_length_add_append]
    rfl
  have hfront : s.lastLine.take front.length = front := by rw [hlast, List.take_left]
  have hholds : s.holdsDelimiter d = true := by
    simp [holdsDelimiter, hx, Delimiter.semicolon, htake, hstop]
  refine ⟨hholds, ?_⟩
  rw [strippedText, hx]
  simp only [Delimiter.semicolon, Bool.false_eq_true, if_false, hholds, if_true, hstop, hdrop]
  rw [List.length_singleton, Nat.add_sub_cancel, hfront, hlines, List.dropLast_concat,
    joinLines_concat]

theorem strippedText_of_alone (ha : s.Assembled d) (ht : s.terminated = true)
    (ho : ∀ x, s.override = some x → d.Sets x) (hx : (s.delimiter d).alone = true)
    (hl : ∀ line ∈ s.lines, '\n' ∉ line) :
    ∃ earlier last, s.lines = earlier ++ [last] ∧ s.strippedText d = trimEnd (joinLines earlier) := by
  obtain ⟨earlier, last, hlines, -, -, hends⟩ := (ha.ends ht).exists_last
  rw [ha.eq] at hends
  rw [hlines] at hl
  have hne := trimEnd_ne_nil_of_ends hx (delimiter_text_ne_nil ho) hends
  refine ⟨earlier, last, hlines, ?_⟩
  rw [strippedText, if_pos hx, text, hlines, dropLastLine_joinLines hne hl]

end Draft

/-- What becomes of the text of a statement when its delimiter is removed. A statement that is left
open keeps its text. A delimiter that is alone goes with its line, and then white space at the end.
A semicolon goes from the place where the code of the last line ends, together with white space
before it and white space at the end of the text. -/
structure StripsDelimiter (d : Dialect) (s : Draft) (whole cut : Text) : Prop where
  leftOpen : s.terminated = false → cut = whole
  alone : s.terminated = true → (s.delimiter d).alone = true →
    ∃ earlier last, s.lines = earlier ++ [last] ∧ whole = joinLines (earlier ++ [last]) ∧
      cut = trimEnd (joinLines earlier)
  semicolon : s.terminated = true → s.delimiter d = .semicolon →
    ∃ earlier front tail, s.lines = earlier ++ [front ++ ';' :: tail] ∧
      s.origin.EndsWithSemicolon d earlier front tail ∧
      whole = earlier.flatMap (· ++ ['\n']) ++ (front ++ ';' :: tail) ∧
      s.holdsDelimiter d = true ∧
      cut = trimEnd (earlier.flatMap (· ++ ['\n']) ++ (trimEnd front ++ tail))

theorem Draft.Assembled.stripsDelimiter {d : Dialect} {s : Draft} (ha : s.Assembled d)
    (ho : ∀ x, s.override = some x → d.Sets x) (hl : ∀ line ∈ s.lines, '\n' ∉ line) :
    StripsDelimiter d s (s.finish d false).sql (s.finish d true).sql where
  leftOpen := by
    intro ht
    simp [Draft.finish, ht]
  alone := by
    intro ht hx
    obtain ⟨earlier, last, hlines, hcut⟩ := Draft.strippedText_of_alone ha ht ho hx hl
    refine ⟨earlier, last, hlines, ?_, ?_⟩
    · simp [Draft.finish, Draft.text, hlines]
    · simp [Draft.finish, ht, hcut]
  semicolon := by
    intro ht hx
    obtain ⟨earlier, front, tail, hlines, hends, hstop⟩ := Draft.exists_endsWithSemicolon ha ht hx
    obtain ⟨hholds, hcut⟩ := Draft.strippedText_of_semicolon hx hlines hstop
    refine ⟨earlier, front, tail, hlines, hends, ?_, hholds, ?_⟩
    · simp [Draft.finish, Draft.text, hlines, joinLines_concat]
    · simp [Draft.finish, ht, hcut]

/-- The statements of a script, found once with their delimiters and once without them, come from
the same drafts. -/
structure SplitsAlike (d : Dialect) (lines : List Text) (ss : List Draft) : Prop where
  whole : Cutting.split ⟨d, false⟩ lines = ss.map (Draft.finish d false)
  cut : Cutting.split ⟨d, true⟩ lines = ss.map (Draft.finish d true)
  numbers : (Cutting.split ⟨d, true⟩ lines).map Statement.line =
    (Cutting.split ⟨d, false⟩ lines).map Statement.line
  assembled : ∀ s ∈ ss, s.Assembled d
  ended : ∀ s ∈ ss.dropLast, s.terminated = true
  texts : ∀ s ∈ ss, StripsDelimiter d s (s.finish d false).sql (s.finish d true).sql

theorem splitsAlike (d : Dialect) (lines : List Text) (hl : ∀ line ∈ lines, '\n' ∉ line) :
    SplitsAlike d lines (Progress.drafts d {} lines) where
  whole := Cutting.split_eq _ _
  cut := Cutting.split_eq _ _
  numbers := by
    rw [Cutting.split_eq, Cutting.split_eq, List.map_map, List.map_map]
    rfl
  assembled := fun s hs => (Progress.assembled_drafts d lines s hs).1
  ended := (Progress.layout_drafts d 1 {} lines).terminated_dropLast
  texts := by
    intro s hs
    obtain ⟨ha, hsub⟩ := Progress.assembled_drafts d lines s hs
    have ho := Progress.sets_override_drafts d lines s hs
    exact ha.stripsDelimiter ho fun line hline => hl line (hsub hline)

/-- A semicolon before a comment, and a statement that is left open. -/
theorem splitsAlike_trailing_comment :
    (∀ line ∈ ["SELECT ';' ; -- one;".toList, "SELECT 2".toList], '\n' ∉ line) ∧
      SplitsAlike .generic ["SELECT ';' ; -- one;".toList, "SELECT 2".toList]
        (Progress.drafts .generic {} ["SELECT ';' ; -- one;".toList, "SELECT 2".toList]) :=
  ⟨by decide, splitsAlike .generic _ (by decide)⟩

end MigrationScript
