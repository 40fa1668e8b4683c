import MigrationScript.Text.Blank

/-!
Lines written one below the other, cut apart again, and trimmed.
-/
namespace MigrationScript.Text

@[simp] theorem joinLines_nil : joinLines [] = [] := rfl

@[simp] theorem joinLines_singleton (line : Text) : joinLines [line] = line := by
  simp [joinLines, List.intercalate]

theorem joinLines_cons {line : Text} {lines : List Text} (h : lines ≠ []) :
    joinLines (line :: lines) = line ++ '\n' :: joinLines lines := by
  cases lines with
  | nil => contradiction
  | cons next lines => simp [joinLines, List.intercalate]

/-- The last line stands behind all other lines and their new lines. -/
theorem joinLines_concat (lines : List Text) (last : Text) :
    joinLines (lines ++ [last]) = lines.flatMap (· ++ ['\n']) ++ last := by
  induction lines with
  | nil => simp
  | cons line lines ih =>
    rw [List.cons_append, joinLines_cons (by simp), ih]
    simp

/-- Two blocks of lines stand one below the other. -/
theorem joinLines_append {a b : List Text} (ha : a ≠ []) (hb : b ≠ []) :
    joinLines (a ++ b) = joinLines a ++ '\n' :: joinLines b := by
  induction a with
  | nil => contradiction
  | cons line a ih =>
    by_cases h : a = []
    · rw [h, List.singleton_append, joinLines_cons hb, joinLines_singleton]
    · rw [List.cons_append, joinLines_cons (List.append_ne_nil_of_left_ne_nil h b), ih h,
        joinLines_cons h, List.append_assoc, List.cons_append]

theorem joinLines_prefix (a b : List Text) : joinLines a <+: joinLines (a ++ b) := by
  by_cases ha : a = []
  · rw [ha]
    exact List.nil_prefix
  · by_cases hb : b = []
    · subst hb
      exact ⟨[], by rw [List.append_nil, List.append_nil]⟩
    · rw [joinLines_append ha hb]
      exact List.prefix_append _ _

/-- Blocks of lines, each of them joined, are joined to the text of all their lines. -/
theorem joinLines_flatten {blocks : List (List Text)} (h : ∀ b ∈ blocks, b ≠ []) :
    joinLines (blocks.map joinLines) = joinLines blocks.flatten := by
  induction blocks with
  | nil => rfl
  | cons b blocks ih =>
    obtain ⟨hb, hblocks⟩ := List.forall_mem_cons.mp h
    cases blocks with
    | nil => simp
    | cons b' blocks =>
      have hb' : b' ≠ [] := hblocks b' List.mem_cons_self
      rw [List.map_cons, joinLines_cons (by simp), ih hblocks, List.flatten_cons (l := b),
        joinLines_append hb (by simp [hb'])]

/-- A line is one piece. -/
theorem pieces_line {line : Text} (h : '\n' ∉ line) : pieces (· == '\n') line = [line] := by
  induction line with
  | nil => rfl
  | cons c line ih =>
    obtain ⟨hc, hline⟩ := List.ne_and_not_mem_of_not_mem_cons h
    have hc : (c == '\n') = false := by simpa using Ne.symm hc
    simp [pieces, hc, ih hline]

/-- Cutting at the first new line. -/
theorem pieces_append_newline {line : Text} (h : '\n' ∉ line) (t : Text) :
    pieces (· == '\n') (line ++ '\n' :: t) = line :: pieces (· == '\n') t := by
  induction line with
  | nil => simp [pieces]
  | cons c line ih =>
    obtain ⟨hc, hline⟩ := List.ne_and_not_mem_of_not_mem_cons h
    have hc : (c == '\n') = false := by simpa using Ne.symm hc
    simp [pieces, hc, ih hline]

/-- Lines can be told apart again after they were joined. -/
theorem pieces_joinLines {lines : List Text} (hne : lines ≠ []) (h : ∀ line ∈ lines, '\n' ∉ line) :
    pieces (· == '\n') (joinLines lines) = lines := by
  induction lines with
  | nil => contradiction
  | cons line lines ih =>
    obtain ⟨hline, hlines⟩ := List.forall_mem_cons.mp h
    by_cases hl : lines = []
    · subst hl
      rw [joinLines_singleton, pieces_line hline]
    · rw [joinLines_cons hl, pieces_append_newline hline, ih hl hlines]

variable {t a b w : Text} {c : Char}

/-- A text that goes on with one more character has a new line or a longer last line. -/
theorem pieces_concat (t : Text) (c : Char) :
    ∃ earlier last, pieces (· == '\n') t = earlier ++ [last] ∧
      pieces (· == '\n') (t ++ [c]) =
        if c = '\n' then earlier ++ [last, []] else earlier ++ [last ++ [c]] := by
  induction t with
  | nil =>
    refine ⟨[], [], rfl, ?_⟩
    by_cases hc : c = '\n' <;> simp [pieces, hc]
  | cons e t ih =>
    obtain ⟨earlier, last, ht, hc⟩ := ih
    by_cases he : e = '\n'
    · refine ⟨[] :: earlier, last, by simp [pieces, he, ht], ?_⟩
      rw [List.cons_append, pieces, if_pos (by simpa using he), hc]
      split <;> rfl
    · have hne : ¬ (e == '\n') = true := by simpa using he
      cases earlier with
      | nil =>
        refine ⟨[], e :: last, by rw [pieces, if_neg hne, ht]; rfl, ?_⟩
        rw [List.cons_append, pieces, if_neg hne, hc]
        split <;> rfl
      | cons first earlier =>
        refine ⟨(e :: first) :: earlier, last, by rw [pieces, if_neg hne, ht]; rfl, ?_⟩
        rw [List.cons_append, pieces, if_neg hne, hc]
        split <;> rfl

theorem trimEnd_of_blank (hw : ∀ c ∈ w, isBlank c = true) : trimEnd w = [] :=
  (dropEnd_eq_nil_iff isBlank w).mpr hw

theorem trimEnd_append_blank (hw : ∀ c ∈ w, isBlank c = true) : trimEnd (t ++ w) = trimEnd t := by
  induction t with
  | nil => exact trimEnd_of_blank hw
  | cons c t ih =>
    simp only [trimEnd] at ih
    rw [trimEnd, trimEnd, List.cons_append, dropEnd_cons, dropEnd_cons, ih]

theorem trimEnd_append (hb : trimEnd b ≠ []) : trimEnd (a ++ b) = a ++ trimEnd b := by
  induction a with
  | nil => rfl
  | cons c a ih =>
    have hne : ¬ (isBlank c = true ∧ dropEnd isBlank (a ++ b) = []) := by
      rintro ⟨-, hn⟩
      rw [trimEnd, hn] at ih
      have := congrArg List.length ih
      have hpos := List.length_pos_iff.mpr hb
      simp only [List.length_nil, List.length_append] at this
      omega
    rw [trimEnd, List.cons_append, dropEnd_cons, if_neg hne, List.cons_append]
    exact congrArg (c :: ·) ih

/-- The white space that ends a text goes, and nothing before it. -/
theorem trimEnd_solid (hc : isBlank c = false) (hw : ∀ e ∈ w, isBlank e = true) :
    trimEnd (a ++ c :: w) = a ++ [c] := by
  have h : trimEnd [c] = [c] := by simp [trimEnd, dropEnd, hc]
  rw [← List.singleton_append, ← List.append_assoc, trimEnd_append_blank hw,
    trimEnd_append (by simp [h]), h]

/-- The last character of a trimmed text is not blank, and only white space stood behind it. -/
theorem eq_append_of_trimEnd (h : trimEnd t = a ++ [c]) :
    isBlank c = false ∧ ∃ w, t = a ++ c :: w ∧ ∀ e ∈ w, isBlank e = true := by
  obtain ⟨w, ht, hw⟩ := dropEnd_append isBlank t
  have ht : t = a ++ [c] ++ w := by rw [← h]; exact ht
  constructor
  · rw [← Bool.not_eq_true]
    intro hc
    have htrim : trimEnd t = trimEnd a := by
      rw [ht, trimEnd_append_blank hw, trimEnd_append_blank (by simpa using hc)]
    obtain ⟨v, ha, -⟩ := dropEnd_append isBlank a
    have hlen := congrArg List.length ha
    rw [htrim, trimEnd] at h
    rw [h] at hlen
    simp only [List.length_append, List.length_singleton] at hlen
    omega
  · exact ⟨w, by simpa using ht, hw⟩

theorem trimEnd_subset (t : Text) : trimEnd t ⊆ t := by
  obtain ⟨w, hw, -⟩ := dropEnd_append isBlank t
  intro c hc
  rw [hw]
  exact List.mem_append_left w hc

theorem trim_subset (t : Text) : trim t ⊆ t :=
  List.Subset.trans (trimEnd_subset _) (List.dropWhile_sublist isBlank).subset

/-- The first character of a trimmed text is not blank, and only white space stood before it. -/
theorem trimStart_of_trim (h : trim t = c :: a) :
    isBlank c = false ∧ ∃ w, trimStart t = c :: (a ++ w) := by
  obtain ⟨w, hw, -⟩ := dropEnd_append isBlank (trimStart t)
  have hstart : trimStart t = c :: (a ++ w) := by
    rw [hw]
    exact congrArg (· ++ w) h
  have hne : t.dropWhile isBlank ≠ [] := by
    intro hn
    rw [show trimStart t = [] from hn] at hstart
    contradiction
  have hc := List.head_dropWhile_not isBlank hne
  refine ⟨?_, w, hstart⟩
  simpa [show t.dropWhile isBlank = c :: (a ++ w) from hstart] using hc

section Map

variable {f : Char → Char} (hf : ∀ c, isBlank (f c) = isBlank c)
include hf

theorem trimStart_map (t : Text) : trimStart (t.map f) = (trimStart t).map f := by
  rw [trimStart, List.dropWhile_map]
  simp only [Function.comp_def, hf]
  rfl

theorem trimEnd_map (t : Text) : trimEnd (t.map f) = (trimEnd t).map f := by
  induction t with
  | nil => rfl
  | cons c t ih =>
    simp only [trimEnd] at ih ⊢
    rw [List.map_cons, dropEnd, dropEnd, ih, hf]
    cases dropEnd isBlank t with
    | nil => by_cases hc : isBlank c = true <;> simp [hc]
    | cons e r => rfl

/-- Other characters are trimmed in the same places if white space stays white space. -/
theorem trim_map (t : Text) : trim (t.map f) = (trim t).map f := by
  rw [trim, trimStart_map hf, trimEnd_map hf, trim]

end Map

/-- Trimming leaves nothing to trim. -/
theorem trim_trim (t : Text) : trim (trim t) = trim t := by
  cases h : trim t with
  | nil => rfl
  | cons c a =>
    obtain ⟨hc, -⟩ := trimStart_of_trim h
    obtain ⟨w, hw, hblank⟩ := dropEnd_append isBlank (trimStart t)
    calc trim (c :: a)
      _ = trimEnd (c :: a) := by
        rw [trim, trimStart, List.dropWhile_cons_of_neg (by simp [hc])]
      _ = trimEnd (trim t ++ w) := by rw [trimEnd_append_blank hblank, h]
      _ = trim t := (congrArg trimEnd hw).symm
      _ = c :: a := h

end MigrationScript.Text
