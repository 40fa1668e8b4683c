import MigrationScript.Draft

/-!
Drafts over any number of lines, and which of the lines ends a statement.
-/
namespace MigrationScript.Draft

variable {d : Dialect} {s : Draft} {line : Text}

@[simp] theorem lines_add : (s.add d line).lines = s.lines ++ [line] := rfl

@[simp] theorem line_add : (s.add d line).line = s.line := rfl

@[simp] theorem override_add : (s.add d line).override = s.override := rfl

theorem mode_add : (s.add d line).mode = (s.scan d line).mode := rfl

theorem stop_add : (s.add d line).stop = (s.scan d line).stop := rfl

theorem special_add (h : s.special = true) : (s.add d line).special = true := by
  simp [add, h]

/-- Data go on to the end of the statement. -/
theorem readsData_add (h : s.readsData d = true) : (s.add d line).readsData d = true := by
  obtain ⟨hd, hs⟩ := Bool.and_eq_true_iff.mp h
  exact Bool.and_eq_true_iff.mpr ⟨hd, special_add hs⟩

/-- A line ends the statement if it leaves no literal, comment or block open and its code ends
with the delimiter; an ended statement stays ended. -/
theorem terminated_add_iff : (s.add d line).terminated = true ↔ s.terminated = true ∨
    ((s.add d line).mode = .code ∧ (s.add d line).depth = 0 ∧
      ((s.add d line).delimiter d).ends (s.scan d line).plainCode = true) := by
  simp only [add, Bool.or_eq_true, decide_eq_true_eq]
  rfl

/-- The draft after several more lines. -/
def addAll (d : Dialect) (s : Draft) (lines : List Text) : Draft :=
  lines.foldl (add d) s

@[simp] theorem addAll_nil : s.addAll d [] = s := rfl

@[simp] theorem addAll_cons (lines : List Text) :
    s.addAll d (line :: lines) = (s.add d line).addAll d lines := rfl

theorem addAll_append (a b : List Text) : s.addAll d (a ++ b) = (s.addAll d a).addAll d b :=
  List.foldl_append

theorem addAll_concat (a : List Text) : s.addAll d (a ++ [line]) = (s.addAll d a).add d line :=
  addAll_append a [line]

@[simp] theorem lines_addAll (a : List Text) : (s.addAll d a).lines = s.lines ++ a := by
  induction a generalizing s with
  | nil => simp
  | cons line a ih => simp [ih]

@[simp] theorem line_addAll (a : List Text) : (s.addAll d a).line = s.line := by
  induction a generalizing s with
  | nil => rfl
  | cons line a ih => simp [ih]

@[simp] theorem override_addAll (a : List Text) : (s.addAll d a).override = s.override := by
  induction a generalizing s with
  | nil => rfl
  | cons line a ih => simp [ih]

/-- Where no blocks are counted, none is open. -/
theorem depth_addAll (hd : d.nestsBlocks = false) (a : List Text) :
    (s.addAll d a).depth = s.depth := by
  induction a generalizing s with
  | nil => rfl
  | cons line a ih =>
    rw [addAll_cons, ih]
    simp [add, hd]

theorem terminated_addAll (h : s.terminated = true) (a : List Text) :
    (s.addAll d a).terminated = true := by
  induction a generalizing s with
  | nil => exact h
  | cons line a ih => exact ih (terminated_add_iff.mpr (.inl h))

/-- A statement that is not ended by some lines is not ended by the first of them either. -/
theorem not_terminated_of_prefix {a b : List Text} (hab : a <+: b)
    (h : (s.addAll d b).terminated = false) : (s.addAll d a).terminated = false := by
  obtain ⟨c, rfl⟩ := hab
  rw [addAll_append] at h
  rw [← Bool.not_eq_true]
  intro ha
  have hb := terminated_addAll (d := d) ha c
  simp [h] at hb

/-- The last of these lines ends the statement, and none before it does. -/
structure EndsAt (d : Dialect) (s : Draft) (body : List Text) : Prop where
  last : (s.addAll d body).terminated = true
  before : (s.addAll d body.dropLast).terminated = false

theorem EndsAt.ne_nil {body : List Text} (h : s.EndsAt d body) : body ≠ [] := by
  rintro rfl
  have hb : s.terminated = false := h.before
  have hl : s.terminated = true := h.last
  simp [hb] at hl

/-- A proper beginning of the lines leaves the statement open. -/
theorem EndsAt.of_prefix {body t : List Text} (h : s.EndsAt d body) (ht : t <+: body)
    (hne : t ≠ body) : (s.addAll d t).terminated = false := by
  refine not_terminated_of_prefix ?_ h.before
  obtain ⟨u, rfl⟩ := ht
  have hu : u ≠ [] := fun e => hne (by simp [e])
  rw [List.dropLast_append_of_ne_nil hu]
  exact List.prefix_append t u.dropLast

/-- The last line leaves no literal, comment or block open, and its code ends with the delimiter. -/
theorem EndsAt.exists_last {body : List Text} (h : s.EndsAt d body) :
    ∃ earlier last, body = earlier ++ [last] ∧ (s.addAll d body).mode = .code ∧
      (s.addAll d body).depth = 0 ∧
      ((s.addAll d body).delimiter d).ends ((s.addAll d earlier).scan d last).plainCode = true := by
  obtain ⟨earlier, last, rfl⟩ : ∃ earlier last, body = earlier ++ [last] :=
    ⟨_, _, (List.dropLast_concat_getLast h.ne_nil).symm⟩
  have hb : (s.addAll d earlier).terminated = false := by simpa using h.before
  have hl := h.last
  rw [addAll_concat, terminated_add_iff, hb] at hl
  rcases hl with hl | hl
  · contradiction
  · rw [← addAll_concat] at hl
    exact ⟨earlier, last, rfl, hl⟩

/-- The draft as it was before its first line. -/
def origin (s : Draft) : Draft :=
  { line := s.line, override := s.override }

/-- The draft is what its own lines make of an empty one, and if it is ended, the last of its
lines did that. -/
structure Assembled (d : Dialect) (s : Draft) : Prop where
  eq : s.origin.addAll d s.lines = s
  ends : s.terminated = true → s.origin.EndsAt d s.lines

end MigrationScript.Draft
