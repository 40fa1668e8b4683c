import MigrationScript.Proofs.Recognition

/-!
Copies whose data follow the statement. The head that is kept of a statement may be full before the
words that announce the data; then the rows are taken for statements. Once they are announced, the
data end at the line that marks their end, unless a literal or a comment is open where they begin.
Main statements: on which lines a copy is recognised, and which copies end where their data do.
-/
namespace MigrationScript

open Text

namespace Draft

variable {s : Draft} {head rows lines : List Text} {row : Text}

theorem readsData_ofLines (head : List Text) :
    (ofLines .postgres head).readsData .postgres = (ofLines .postgres head).special := rfl

theorem readsData_append (h : (ofLines .postgres head).readsData .postgres = true)
    (rows : List Text) : (ofLines .postgres (head ++ rows)).readsData .postgres = true := by
  induction rows using List.reverseRecOn with
  | nil => rwa [List.append_nil]
  | append_singleton rows row ih =>
    rw [← List.append_assoc, ofLines_concat]
    exact readsData_add ih

theorem delimiter_copy (h : (ofLines .postgres head).readsData .postgres = true) :
    (ofLines .postgres head).delimiter .postgres = ⟨['\\', '.'], true⟩ := by
  rw [readsData_ofLines] at h
  rw [delimiter_ofLines, h]
  rfl

/-- The mark at the end of the data is compared with the whole row. -/
theorem ends_row (s : Draft) (row : Text) (h : s.readsData .postgres = true) :
    (⟨['\\', '.'], true⟩ : Delimiter).ends (s.scan .postgres row).plainCode = true ↔
      trim row = ['\\', '.'] := by
  have hcode : (s.scan .postgres row).code = row := by
    rw [scan, if_pos h]
    rfl
  have hmark : upper ['\\', '.'] = ['\\', '.'] := by decide
  rw [Delimiter.ends, if_pos rfl, beq_iff_eq, hmark, Scan.plainCode_eq_iff (by decide), hcode]

/-- A row of data ends a statement that no row has ended before if it marks the end of the data and
nothing was open where they began. -/
theorem terminated_row (h : (ofLines .postgres head).readsData .postgres = true) (row : Text) :
    (ofLines .postgres (head ++ [row])).terminated = true ↔
      (ofLines .postgres head).terminated = true ∨
        ((ofLines .postgres head).mode = .code ∧ trim row = ['\\', '.']) := by
  have hdelimiter := delimiter_copy (readsData_append h [row])
  have hdepth : (ofLines .postgres (head ++ [row])).depth = 0 := depth_addAll rfl _
  rw [ofLines_concat] at hdelimiter hdepth ⊢
  rw [terminated_add_iff, hdelimiter, hdepth, mode_add_of_data h, ends_row _ _ h]
  simp

/-- No rows end the statement that are not the mark of their end. -/
def PassesRows (head : List Text) : Prop :=
  ∀ rows, (∀ row ∈ rows, trim row ≠ ['\\', '.']) →
    (ofLines .postgres (head ++ rows)).terminated = (ofLines .postgres head).terminated

theorem passesRows (h : (ofLines .postgres head).readsData .postgres = true) :
    PassesRows head := by
  intro rows hrows
  induction rows using List.reverseRecOn with
  | nil => rw [List.append_nil]
  | append_singleton rows row ih =>
    obtain ⟨hrows, hrow⟩ := List.forall_mem_append.mp hrows
    have hrow : trim row ≠ ['\\', '.'] := hrow row (List.mem_singleton.mpr rfl)
    rw [← ih hrows, ← List.append_assoc, Bool.eq_iff_iff, terminated_row (readsData_append h rows)]
    simp [hrow]

/-- These lines are recognised as those of a copy: its end is a mark on a line of its own, and other
rows do not end it. -/
structure KeepsRows (lines : List Text) : Prop where
  delimiter : (ofLines .postgres lines).delimiter .postgres = ⟨['\\', '.'], true⟩
  rows : PassesRows lines

/-- A copy is recognised if the words that announce its data are there with one of its lines before
which there were at most eight words of code. -/
theorem keepsRows_iff (lines : List Text) : KeepsRows lines ↔ ∃ a, a <+: lines ∧
    (words (wholeCode .postgres a.dropLast)).length ≤ 8 ∧
      Pattern.inlineCopy.fits (spaced (wholeCode .postgres a)) = true := by
  have hspecial : (ofLines .postgres lines).special = true ↔ ∃ a, a <+: lines ∧
      (words (wholeCode .postgres a.dropLast)).length ≤ 8 ∧
        Pattern.inlineCopy.fits (spaced (wholeCode .postgres a)) = true := by
    rw [special_ofLines_iff]
    simp only [Dialect.isSpecial_words]
    rfl
  rw [← hspecial]
  constructor
  · intro h
    have hdelimiter := h.delimiter
    rw [delimiter_ofLines] at hdelimiter
    split at hdelimiter
    next hs => exact hs
    next => contradiction
  · intro hs
    exact ⟨delimiter_copy hs, passesRows hs⟩

/-- The first line of a copy has nine words, and the words that announce its data come with the
second line. -/
theorem not_keepsRows_long_head :
    let lines := ["COPY t (a, b, c, d, e, f, g,".toList, "h) FROM STDIN;".toList]
    (∀ line ∈ lines, '\n' ∉ line) ∧ (ofLines .postgres lines.dropLast).terminated = false ∧
      Pattern.inlineCopy.fits (spaced (wholeCode .postgres lines)) = true ∧ ¬ KeepsRows lines := by
  intro lines
  refine ⟨by decide, by decide +kernel, by decide +kernel, ?_⟩
  intro h
  have hdelimiter := h.delimiter
  revert hdelimiter
  decide +kernel

/-- The data of a copy end at the first row that marks their end. -/
structure DataEnds (head : List Text) : Prop where
  rows : PassesRows head
  mark : ∀ rows last, (∀ row ∈ rows, trim row ≠ ['\\', '.']) → trim last = ['\\', '.'] →
    (ofLines .postgres (head ++ rows ++ [last])).terminated = true

/-- The data of a copy end at their mark unless a literal or a comment is open where they begin;
such a copy never ends. -/
theorem dataEnds_iff (h : (ofLines .postgres head).readsData .postgres = true) :
    (DataEnds head ↔ (ofLines .postgres head).terminated = true ∨
        (ofLines .postgres head).mode = .code) ∧
      (¬ DataEnds head → ∀ later, (ofLines .postgres (head ++ later)).terminated = false) := by
  have hmode (rows : List Text) :
      (ofLines .postgres (head ++ rows)).mode = (ofLines .postgres head).mode := by
    rw [ofLines_append]
    exact mode_addAll_data h rows
  have hstays (hopen : (ofLines .postgres head).mode ≠ .code) (later : List Text) :
      (ofLines .postgres (head ++ later)).terminated = (ofLines .postgres head).terminated := by
    induction later using List.reverseRecOn with
    | nil => rw [List.append_nil]
    | append_singleton later row ih =>
      rw [← ih, ← List.append_assoc, Bool.eq_iff_iff, terminated_row (readsData_append h later),
        hmode]
      simp [hopen]
  have hiff : DataEnds head ↔ (ofLines .postgres head).terminated = true ∨
      (ofLines .postgres head).mode = .code := by
    constructor
    · intro hends
      have hlast := hends.mark [] ['\\', '.'] (by simp) (by decide)
      rw [List.append_nil, terminated_row h] at hlast
      exact hlast.imp id And.left
    · intro hor
      refine ⟨passesRows h, ?_⟩
      intro rows last hrows hlast
      rw [terminated_row (readsData_append h rows), passesRows h rows hrows, hmode]
      exact hor.imp id fun hcode => ⟨hcode, hlast⟩
  refine ⟨hiff, ?_⟩
  intro hno later
  rw [hiff, not_or] at hno
  rw [hstays hno.2, ← Bool.not_eq_true]
  exact hno.1

/-- A copy on one line. -/
theorem dataEnds_iff_one_line :
    (ofLines .postgres ["COPY t FROM STDIN;".toList]).readsData .postgres = true ∧
      ((DataEnds ["COPY t FROM STDIN;".toList] ↔
          (ofLines .postgres ["COPY t FROM STDIN;".toList]).terminated = true ∨
            (ofLines .postgres ["COPY t FROM STDIN;".toList]).mode = .code) ∧
        (¬ DataEnds ["COPY t FROM STDIN;".toList] → ∀ later,
          (ofLines .postgres ("COPY t FROM STDIN;".toList :: later)).terminated = false)) :=
  have h : (ofLines .postgres ["COPY t FROM STDIN;".toList]).readsData .postgres = true := by
    decide +kernel
  ⟨h, dataEnds_iff h⟩

/-- A comment is open behind the words that announce the data, and stays so. -/
theorem not_dataEnds_open_comment :
    (ofLines .postgres ["COPY t FROM STDIN /* rows".toList]).readsData .postgres = true ∧
      ¬ DataEnds ["COPY t FROM STDIN /* rows".toList] := by
  refine ⟨by decide +kernel, ?_⟩
  intro h
  have hlast := h.mark ["of t */;".toList, "1".toList] "\\.".toList (by decide) (by decide)
  revert hlast
  decide +kernel

end Draft
end MigrationScript
