import MigrationScript.Proofs.Expressions
import MigrationScript.Proofs.FieldValues
import MigrationScript.Proofs.TextOrder

/-!
Filling the placeholders of a line. Main statements: filling follows the one walk through the line,
puts the values in where all names have one and otherwise reports every expression without one; and
a line that came of filling is not changed by filling it again, if the values are such that nothing
in them can open an expression.
-/
namespace MigrationScript

/-- A mark that is found nowhere stands nowhere. -/
theorem Text.not_prefix_of_find? {m a b : Text} (hm : m ≠ []) (h : find? m (a ++ b) = none) :
    ¬ m <+: b := by
  induction a with
  | nil =>
    intro hb
    cases b with
    | nil => exact hm (List.prefix_nil.mp hb)
    | cons c b =>
      rw [List.nil_append, find?, if_pos (List.isPrefixOf_iff_prefix.mpr hb)] at h
      contradiction
  | cons c a ih =>
    rw [List.cons_append, find?] at h
    split at h
    · contradiction
    · exact ih (Option.map_eq_none_iff.mp h)

namespace Placeholders

/-- A name has a value, be it nothing. -/
def Has (p : Placeholders) (name : Text) : Prop :=
  (p.values.lookup name).isSome = true

instance (p : Placeholders) (name : Text) : Decidable (p.Has name) :=
  inferInstanceAs (Decidable (_ = true))

/-- The text that a name stands for. -/
def valueText (p : Placeholders) (name : Text) : Text :=
  ((p.values.lookup name).getD none).getD []

/-- The line of a walk with the values in the places of the expressions. -/
def filledText (p : Placeholders) (ss : List Stretch) (last : Text) : Text :=
  ss.flatMap (fun s => s.plain ++ p.valueText s.name) ++ last

/-- The only walk through a line, and what filling the line comes to. -/
structure Fills (p : Placeholders) (line : Text) (ss : List Stretch) (last : Text) : Prop where
  walk : p.Walk line ss last
  only : ∀ ss' last', p.Walk line ss' last' → ss' = ss ∧ last' = last
  /-- Where nothing opens there is nothing to walk to. -/
  unopened : Text.find? p.opening.text line = none → ss = [] ∧ last = line
  filled : (∀ s ∈ ss, p.Has s.name) → p.fill line = .ok (p.filledText ss last)
  /-- All expressions without a value are reported, each once and in order. -/
  refused : (∃ s ∈ ss, ¬ p.Has s.name) → ∃ es, p.fill line = .error (.unresolved es) ∧
    es.Pairwise Text.Before ∧ ∀ e, e ∈ es ↔ ∃ s ∈ ss, ¬ p.Has s.name ∧ e = p.written s.name

variable {p : Placeholders} {t line name rest last r : Text} {ss : List Stretch}

theorem Starts.opens (h : p.Starts t name rest) : p.opening.text <+: t := by
  rw [h.text, written, List.append_assoc, List.append_assoc]
  exact List.prefix_append _ _

theorem free_of_unopened {a b : Text} (h : Text.find? p.opening.text (a ++ b) = none) :
    p.Free b :=
  fun _ _ hs => Text.not_prefix_of_find? (List.cons_ne_nil _ _) h hs.opens

/-- A line in which no expression opens is all plain. -/
theorem walk_of_unopened (h : Text.find? p.opening.text line = none) : p.Walk line [] line := by
  apply Walk.last
  rintro a b rfl
  exact free_of_unopened h

theorem fillSegment?_expression (hname : p.Has name) :
    p.fillSegment? (.expression name) = some (p.valueText name) := by
  obtain ⟨v, hv⟩ := Option.isSome_iff_exists.mp hname
  rw [fillSegment?, valueText, hv]
  rfl

theorem fillSegment?_expression_of_not (hname : ¬ p.Has name) :
    p.fillSegment? (.expression name) = none := by
  rw [fillSegment?, Option.not_isSome_iff_eq_none.mp hname]
  rfl

theorem mem_unresolved {e : Text} :
    e ∈ p.unresolved (segmentsOf ss last) ↔
      ∃ s ∈ ss, ¬ p.Has s.name ∧ e = p.written s.name := by
  unfold unresolved
  rw [List.mem_filterMap]
  constructor
  · rintro ⟨s, hs, he⟩
    cases s with
    | plain c => contradiction
    | expression name =>
      have hname : ∃ s ∈ ss, s.name = name := by
        rw [segmentsOf, List.mem_append, List.mem_flatMap] at hs
        simpa [eq_comm] using hs
      obtain ⟨s, hmem, rfl⟩ := hname
      by_cases hhas : p.Has s.name
      · simp [fillSegment?_expression hhas] at he
      · simp only [fillSegment?_expression_of_not hhas, Option.isNone_none, if_true,
          Option.some.injEq] at he
        exact ⟨s, hmem, hhas, he.symm⟩
  · rintro ⟨s, hs, hhas, rfl⟩
    refine ⟨.expression s.name, ?_, by simp [fillSegment?_expression_of_not hhas]⟩
    rw [segmentsOf, List.mem_append, List.mem_flatMap]
    exact .inl ⟨s, hs, by simp⟩

theorem flatMap_plain (p : Placeholders) (t : Text) :
    (t.map Segment.plain).flatMap (fun s => (p.fillSegment? s).getD []) = t := by
  rw [List.flatMap_map]
  exact List.flatMap_singleton' t

theorem segmentsOf_cons (s : Stretch) (ss : List Stretch) (last : Text) :
    segmentsOf (s :: ss) last =
      s.plain.map .plain ++ .expression s.name :: segmentsOf ss last := by
  simp [segmentsOf]

theorem filledText_cons (p : Placeholders) (s : Stretch) (ss : List Stretch) (last : Text) :
    p.filledText (s :: ss) last = s.plain ++ (p.valueText s.name ++ p.filledText ss last) := by
  simp [filledText]

theorem flatMap_segmentsOf (h : ∀ s ∈ ss, p.Has s.name) :
    (segmentsOf ss last).flatMap (fun s => (p.fillSegment? s).getD []) = p.filledText ss last := by
  induction ss with
  | nil => exact flatMap_plain p last
  | cons s ss ih =>
    obtain ⟨hs, hss⟩ := List.forall_mem_cons.mp h
    rw [segmentsOf_cons, filledText_cons, List.flatMap_append, flatMap_plain, List.flatMap_cons,
      fillSegment?_expression hs, ih hss]
    rfl

theorem fill_of_has (h : p.Walk line ss last) (hhas : ∀ s ∈ ss, p.Has s.name) :
    p.fill line = .ok (p.filledText ss last) := by
  unfold fill
  split
  next hopen =>
    obtain ⟨rfl, rfl⟩ := h.unique (walk_of_unopened (Option.isNone_iff_eq_none.mp hopen))
    rfl
  next =>
    have hnone : Text.sortDistinct (p.unresolved (segmentsOf ss last)) = [] := by
      apply List.eq_nil_iff_forall_not_mem.mpr
      intro e he
      obtain ⟨s, hs, hno, -⟩ := mem_unresolved.mp (Text.mem_sortDistinct.mp he)
      exact hno (hhas s hs)
    simp only [segments_of_walk h, hnone, flatMap_segmentsOf hhas]
    rfl

theorem fill_of_not_has (h : p.Walk line ss last) (hnot : ∃ s ∈ ss, ¬ p.Has s.name) :
    p.fill line = .error (.unresolved (Text.sortDistinct (p.unresolved (segmentsOf ss last)))) := by
  obtain ⟨s, hs, hno⟩ := hnot
  unfold fill
  split
  next hopen =>
    obtain ⟨rfl, -⟩ := h.unique (walk_of_unopened (Option.isNone_iff_eq_none.mp hopen))
    contradiction
  next =>
    have hmem : p.written s.name ∈ Text.sortDistinct (p.unresolved (segmentsOf ss last)) :=
      Text.mem_sortDistinct.mpr (mem_unresolved.mpr ⟨s, hs, hno, rfl⟩)
    rw [segments_of_walk h]
    apply if_neg
    rw [List.isEmpty_iff]
    exact List.ne_nil_of_mem hmem

/-- Every line has exactly one walk. If all names on it have values, filling puts these in and
keeps everything else as it is; if some have none, filling tells exactly which. -/
theorem fills (p : Placeholders) (line : Text) : ∃ ss last, p.Fills line ss last := by
  obtain ⟨ss, last, hwalk, -⟩ := exists_walk p line
  refine ⟨ss, last, hwalk, fun _ _ h => h.unique hwalk, ?_, fill_of_has hwalk, ?_⟩
  · intro hopen
    exact hwalk.unique (walk_of_unopened hopen)
  · intro hnot
    refine ⟨_, fill_of_not_has hwalk hnot, Text.increasing_sortDistinct _, ?_⟩
    intro e
    rw [Text.mem_sortDistinct, mem_unresolved]

/-- A mark that shares no character with a text does not reach into it. -/
theorem exists_of_opens {m x v w : Text} (hv : v ≠ []) (hforeign : ∀ c ∈ v, c ∉ m)
    (h : m <+: x ++ (v ++ w)) : ∃ y, x = m ++ y := by
  obtain ⟨z, hz⟩ := h
  rcases List.append_eq_append_iff.mp hz with ⟨y, hy, -⟩ | ⟨y, hy, hvw⟩
  · exact ⟨y, hy⟩
  · cases y with
    | nil => exact ⟨[], by rw [hy, List.append_nil, List.append_nil]⟩
    | cons c y =>
      obtain ⟨d, v', rfl⟩ := List.exists_cons_of_ne_nil hv
      obtain ⟨rfl, -⟩ := List.cons.inj hvw
      exact absurd (by simp [hy]) (hforeign d List.mem_cons_self)

/-- A mark that opens further to the front in the same line opens an expression, too. -/
theorem Starts.earlier {y : Text} (h : p.Starts t name rest)
    (hline : '\n' ∉ p.opening.text ++ y ++ t) :
    p.Starts (p.opening.text ++ y ++ t) (y ++ p.opening.text ++ name) rest := by
  constructor
  · rw [h.text]
    simp [written]
  · rw [Mark.text]
    simp
  · intro hn
    apply hline
    rw [h.text, written]
    simp only [List.mem_append] at hn ⊢
    rcases hn with (hn | hn) | hn <;> simp [hn]

/-- What came of filling holds no expression, if the values are not empty and share no character
with the opening mark. A mark would have to stand inside plain text; but there it would have opened
an expression before, as the closing mark of the next one stands behind it. -/
theorem Walk.free_filledText (h : p.Walk t ss last) (hline : '\n' ∉ t)
    (hvalues : ∀ s ∈ ss, p.valueText s.name ≠ [] ∧ ∀ c ∈ p.valueText s.name, c ∉ p.opening.text) :
    ∀ a b, p.filledText ss last = a ++ b → p.Free b := by
  induction h with
  | last free => exact free
  | @next plain u name rest last more free leads on ih =>
    obtain ⟨⟨hne, hforeign⟩, hvalues⟩ := List.forall_mem_cons.mp hvalues
    have hrest : '\n' ∉ rest := by
      rw [leads.starts.text] at hline
      simp_all
    have hmark : ¬ ∃ y, [] = p.opening.text ++ y := by simp [Mark.text]
    intro a b hab name' rest' hs
    rw [filledText_cons] at hab
    rcases List.append_eq_append_iff.mp hab with ⟨x, rfl, hx⟩ | ⟨x, rfl, rfl⟩
    · rcases List.append_eq_append_iff.mp hx with ⟨y, rfl, hy⟩ | ⟨y, hy, rfl⟩
      · exact ih hrest hvalues y b hy name' rest' hs
      · by_cases hy0 : y = []
        · subst hy0
          exact ih hrest hvalues [] _ rfl name' rest' hs
        · have hforeign : ∀ c ∈ y, c ∉ p.opening.text := by
            intro c hc
            exact hforeign c (hy ▸ List.mem_append_right x hc)
          exact hmark (exists_of_opens hy0 hforeign hs.opens)
    · obtain ⟨y, rfl⟩ := exists_of_opens hne hforeign hs.opens
      have hfree := free a (p.opening.text ++ y) rfl (by simp [Mark.text])
      apply hfree _ _ (leads.starts.earlier _)
      intro hn
      apply hline
      rw [List.append_assoc]
      exact List.mem_append_right a hn

/-- Filling gives a line exactly if all names on its walk have values. -/
theorem has_of_fill (h : p.Walk line ss last) (hr : p.fill line = .ok r) :
    (∀ s ∈ ss, p.Has s.name) ∧ r = p.filledText ss last := by
  by_cases hhas : ∀ s ∈ ss, p.Has s.name
  · rw [fill_of_has h hhas] at hr
    exact ⟨hhas, (Except.ok.inj hr).symm⟩
  · rw [fill_of_not_has h (by simpa using hhas)] at hr
    contradiction

/-- A line that came of filling stays as it is when it is filled again, if all names have values and
no value is empty or has a character of the opening mark. -/
theorem fill_again (hline : '\n' ∉ line)
    (hvalues : ∀ e ∈ p.values, ∃ v, e.2 = some v ∧ v ≠ [] ∧ ∀ c ∈ v, c ∉ p.opening.text)
    (h : p.fill line = .ok r) : p.fill r = .ok r := by
  obtain ⟨ss, last, hwalk, -⟩ := exists_walk p line
  obtain ⟨hhas, rfl⟩ := has_of_fill hwalk h
  have hforeign : ∀ s ∈ ss,
      p.valueText s.name ≠ [] ∧ ∀ c ∈ p.valueText s.name, c ∉ p.opening.text := by
    intro s hs
    obtain ⟨v, hv⟩ := Option.isSome_iff_exists.mp (hhas s hs)
    obtain ⟨t, rfl, ht⟩ := hvalues _ (mem_of_lookup hv)
    rwa [valueText, hv]
  have hplain : p.Walk (p.filledText ss last) [] (p.filledText ss last) :=
    .last (hwalk.free_filledText hline hforeign)
  have hfill : p.fill _ = .ok (p.filledText [] _) := fill_of_has hplain (by simp)
  exact hfill

/-- A value with a closing mark in it, and an opening mark that nothing closes. -/
theorem fill_again_open_mark :
    let p : Placeholders := { values := [("a".toList, some "x\x7dy".toList)] }
    let line := "$\x7ba\x7d.t $\x7b".toList
    let filled := "x\x7dy.t $\x7b".toList
    ('\n' ∉ line ∧
      (∀ e ∈ p.values, ∃ v, e.2 = some v ∧ v ≠ [] ∧ ∀ c ∈ v, c ∉ p.opening.text) ∧
      p.fill line = .ok filled) ∧ p.fill filled = .ok filled := by
  intro p line filled
  have hline : '\n' ∉ line := by decide
  have hvalues : ∀ e ∈ p.values, ∃ v, e.2 = some v ∧ v ≠ [] ∧ ∀ c ∈ v, c ∉ p.opening.text := by
    simp [p]
    decide
  have hfill : p.fill line = .ok filled := by
    simp [fill, segments, name?, Text.after?, upToClosing?, Mark.text, Text.find?, unresolved,
      fillSegment?, Text.sortDistinct, p, line, filled]
  exact ⟨⟨hline, hvalues, hfill⟩, fill_again hline hvalues hfill⟩

end Placeholders
end MigrationScript
