import MigrationScript.Gap

/-!
What decides the role of a line between statements, and what the roles leave behind.
-/
namespace MigrationScript

namespace Dialect

variable {d : Dialect} {line : Text} {x : Delimiter}

/-- A directive has two words, of which the second is the delimiter. Only one dialect has
directives. -/
theorem words_of_directive? (h : d.directive? line = some x) :
    d = .mysql ∧ x.alone = false ∧
      ∃ keyword, Text.words line = [keyword, x.text] ∧ isDirectiveWord keyword = true := by
  unfold directive? at h
  split at h
  next hd =>
    split at h
    next keyword text hwords =>
      split at h
      next hk =>
        obtain rfl := Option.some.inj h
        exact ⟨hd, rfl, keyword, hwords, hk⟩
      next => contradiction
    next => contradiction
  next => contradiction

/-- Some line sets the delimiter. -/
def Sets (d : Dialect) (x : Delimiter) : Prop :=
  ∃ line, d.directive? line = some x

theorem Sets.eq_mysql (h : d.Sets x) : d = .mysql := by
  obtain ⟨line, hline⟩ := h
  exact (words_of_directive? hline).1

theorem Sets.alone (h : d.Sets x) : x.alone = false := by
  obtain ⟨line, hline⟩ := h
  exact (words_of_directive? hline).2.1

theorem Sets.text_ne_nil (h : d.Sets x) : x.text ≠ [] := by
  obtain ⟨line, hline⟩ := h
  obtain ⟨-, -, keyword, hwords, -⟩ := words_of_directive? hline
  have hmem : x.text ∈ Text.words line := by rw [hwords]; simp
  simpa using (List.mem_filter.mp hmem).2

end Dialect

/-- The line starts no statement and sets no delimiter. -/
def Role.isIdle : Role → Bool
  | .directive _ | .start => false
  | _ => true

namespace Gap

/-- The grounds for each role. A line is asked for them in this order, and each ground stands for
the lines that have none of those before it. -/
inductive Decides (d : Dialect) (g : Gap) (line : Text) : Role → Prop where
  | blank (empty : Text.trim line = []) : Decides d g line .blank
  | blockComment (solid : Text.trim line ≠ [])
      (plain : d.isExecutableComment (Text.trim line) = false)
      (inside : (g.inComment || startsBlockComment (Text.trim line)) = true) :
      Decides d g line (.comment !endsBlockComment (Text.trim line))
  | lineComment (solid : Text.trim line ≠ [])
      (plain : d.isExecutableComment (Text.trim line) = false)
      (outside : (g.inComment || startsBlockComment (Text.trim line)) = false)
      (marked : d.startsLineComment (Text.trim line) = true) : Decides d g line (.comment false)
  | directive {x : Delimiter} (solid : Text.trim line ≠ [])
      (code : g.commentRole? d (Text.trim line) = none) (sets : d.directive? line = some x) :
      Decides d g line (.directive x)
  | separator (solid : Text.trim line ≠ []) (code : g.commentRole? d (Text.trim line) = none)
      (keeps : d.directive? line = none) (alone : (g.activeDelimiter d).alone = true)
      (same : Text.upper (Text.trim line) = Text.upper (g.activeDelimiter d).text) :
      Decides d g line .separator
  | start (solid : Text.trim line ≠ []) (code : g.commentRole? d (Text.trim line) = none)
      (keeps : d.directive? line = none)
      (other : (g.activeDelimiter d).alone = true →
        Text.upper (Text.trim line) ≠ Text.upper (g.activeDelimiter d).text) :
      Decides d g line .start

variable {d : Dialect} {g : Gap} {line : Text} {x : Delimiter}

private theorem decides_comment {r : Role} (solid : Text.trim line ≠ [])
    (h : g.commentRole? d (Text.trim line) = some r) : g.Decides d line r := by
  unfold commentRole? at h
  split at h
  next => contradiction
  next hplain =>
    split at h
    next hin =>
      obtain rfl := Option.some.inj h
      exact .blockComment solid (eq_false_of_ne_true hplain) hin
    next hout =>
      split at h
      next hl =>
        obtain rfl := Option.some.inj h
        exact .lineComment solid (eq_false_of_ne_true hplain) (eq_false_of_ne_true hout) hl
      next => contradiction

theorem decides (d : Dialect) (g : Gap) (line : Text) : g.Decides d line (g.role d line) := by
  unfold role
  dsimp only
  split
  next hempty => exact .blank (List.isEmpty_iff.mp hempty)
  next hempty =>
    have solid : Text.trim line ≠ [] := fun h => hempty (List.isEmpty_iff.mpr h)
    split
    next r hr => exact decides_comment solid hr
    next hcode =>
      split
      next x hx => exact .directive solid hcode hx
      next hkeeps =>
        split
        next hsep =>
          obtain ⟨ha, hs⟩ := Bool.and_eq_true_iff.mp hsep
          exact .separator solid hcode hkeeps ha (beq_iff_eq.mp hs)
        next hsep =>
          refine .start solid hcode hkeeps ?_
          intro ha hs
          exact hsep (Bool.and_eq_true_iff.mpr ⟨ha, beq_iff_eq.mpr hs⟩)

/-- The gap with no comment open. -/
def close (g : Gap) : Gap :=
  { g with inComment := false }

theorem commentRole?_close {t : Text} (h : g.commentRole? d t = none) :
    g.close.commentRole? d t = none := by
  unfold commentRole? at h ⊢
  split
  next => rfl
  next hplain =>
    rw [if_neg hplain] at h
    split at h
    next => contradiction
    next hout =>
      have hstart : ¬ (g.close.inComment || startsBlockComment t) = true := by
        intro hs
        exact hout (Bool.or_eq_true_iff.mpr (.inr hs))
      rw [if_neg hstart]
      exact h

/-- A line that starts a statement or sets a delimiter is no part of a comment. -/
theorem commentRole?_of_not_idle (h : (g.role d line).isIdle = false) :
    g.commentRole? d (Text.trim line) = none := by
  have hd := g.decides d line
  cases hr : g.role d line with
  | directive x =>
    rw [hr] at hd
    cases hd with
    | directive solid code sets => exact code
  | start =>
    rw [hr] at hd
    cases hd with
    | start solid code keeps other => exact code
  | _ => simp [hr, Role.isIdle] at h

/-- An open comment changes the role of idle lines only. -/
theorem role_close (h : (g.role d line).isIdle = false) :
    g.close.role d line = g.role d line := by
  have hcode := commentRole?_of_not_idle h
  simp only [role, hcode, commentRole?_close hcode]
  rfl

/-- The delimiter, if there is one, was set by a directive. -/
def SetByDirective (d : Dialect) (g : Gap) : Prop :=
  ∀ x, g.delimiter = some x → d.Sets x

theorem setByDirective_start (d : Dialect) : SetByDirective d {} := by
  simp [SetByDirective]

theorem SetByDirective.after (hg : g.SetByDirective d) (line : Text) :
    (g.after (g.role d line)).SetByDirective d := by
  cases hr : g.role d line with
  | directive y =>
    intro x hx
    obtain rfl : y = x := by simpa [Gap.after] using hx
    have hy := g.decides d line
    rw [hr] at hy
    cases hy with
    | directive solid code sets => exact ⟨line, sets⟩
  | _ => exact hg

end Gap
end MigrationScript
