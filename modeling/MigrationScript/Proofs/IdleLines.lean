import MigrationScript.Proofs.Layout
import MigrationScript.Proofs.Roles

/-!
Idle lines: blank lines, comments and stray separators between statements. Main statement: they can
all be emptied, and the script still has the same statements on the same lines.
-/
namespace MigrationScript

/-- The line as it is, or the empty line in its place if it was idle between statements. -/
def Turn.clear (t : Turn) (line : Text) : Text :=
  if t.role.any Role.isIdle then [] else line

namespace Gap

variable {g : Gap} {r : Role}

/-- What idle lines leave behind is a comment that is open or not. -/
theorem close_after_idle (h : r.isIdle = true) : (g.after r).close = g.close := by
  cases r with
  | directive x => contradiction
  | start => contradiction
  | _ => rfl

theorem close_after (h : r.isIdle = false) : (g.after r).close = g.close.after r := by
  cases r with
  | directive x => rfl
  | start => rfl
  | _ => contradiction

end Gap

namespace Progress

variable {d : Dialect} {p : Progress} {line : Text}

/-- The state with no comment open. -/
def close (p : Progress) : Progress :=
  { p with gap := p.gap.close }

/-- Lines that come in the state `p`, with every idle line among them emptied. -/
def clearIdle (d : Dialect) (p : Progress) (lines : List Text) : List Text :=
  List.zipWith Turn.clear (p.turns d lines) lines

theorem clearIdle_cons (lines : List Text) : p.clearIdle d (line :: lines) =
    (p.step d line).clear line :: (p.step d line).after.clearIdle d lines := rfl

/-- An idle line does what the empty line does, but for a comment that it leaves open. -/
theorem step_idle (hi : (p.step d line).role.any Role.isIdle = true) :
    (p.step d line).draft = none ∧
      p.close.step d [] = ⟨some .blank, none, (p.step d line).after.close⟩ := by
  have h := p.takesTurn d line
  generalize p.step d line = t at h hi ⊢
  cases h with
  | added => contradiction
  | started role => contradiction
  | dropped role =>
    refine ⟨rfl, ?_⟩
    simp only [close, Gap.close_after_idle hi]
    rfl

/-- Any other line does the same whether a comment is open or not. -/
theorem step_close (hi : (p.step d line).role.any Role.isIdle = false) :
    p.close.step d line = { p.step d line with after := (p.step d line).after.close } := by
  have h := p.takesTurn d line
  generalize p.step d line = t at h hi ⊢
  cases h with
  | added => rfl
  | @started n g role =>
    have hc : g.close.role d line = .start := by rw [Gap.role_close (by rw [role]; rfl), role]
    rw [close, step_start hc]
    rfl
  | @dropped n g role =>
    have hc : g.close.role d line = g.role d line := Gap.role_close hi
    rw [close, step_between (by rw [hc]; exact role), hc]
    simp only [close, Gap.close_after hi]

/-- What is left of a line leads to the same draft as the line, and to the same state but for an
open comment. -/
theorem step_clear (d : Dialect) (p : Progress) (line : Text) :
    (p.close.step d ((p.step d line).clear line)).draft = (p.step d line).draft ∧
      (p.close.step d ((p.step d line).clear line)).after = (p.step d line).after.close := by
  cases h : (p.step d line).role.any Role.isIdle with
  | true =>
    obtain ⟨hdraft, hempty⟩ := step_idle h
    rw [Turn.clear, if_pos h, hempty, hdraft]
    exact ⟨rfl, rfl⟩
  | false =>
    rw [Turn.clear, h, if_neg Bool.false_ne_true, step_close h]
    exact ⟨rfl, rfl⟩

theorem length_clearIdle (p : Progress) (lines : List Text) :
    (p.clearIdle d lines).length = lines.length := by
  induction lines generalizing p with
  | nil => rfl
  | cons line lines ih => rw [clearIdle_cons, List.length_cons, ih, List.length_cons]

end Progress

namespace Cutting

/-- Emptying the idle lines leaves what is found unchanged, also where a comment was open that now
is not. -/
theorem findFrom_clearIdle (c : Cutting) (p : Progress) (lines : List Text) :
    c.findFrom p.close (p.clearIdle c.dialect lines) = c.findFrom p lines := by
  induction lines generalizing p with
  | nil => rfl
  | cons line lines ih =>
    obtain ⟨hdraft, hafter⟩ := Progress.step_clear c.dialect p line
    have hended : (p.close.step c.dialect ((p.step c.dialect line).clear line)).ended? =
        (p.step c.dialect line).ended? := by
      rw [Turn.ended?, Turn.ended?, hdraft]
    rw [Progress.clearIdle_cons, findFrom, findFrom, hended, hafter, ih]

/-- The statements of a script stay the same, with their line numbers, when all its idle lines are
emptied. -/
theorem split_clearIdle (c : Cutting) (lines : List Text) :
    (Progress.clearIdle c.dialect {} lines).length = lines.length ∧
      c.split (Progress.clearIdle c.dialect {} lines) = c.split lines := by
  refine ⟨Progress.length_clearIdle {} lines, ?_⟩
  have h : c.find (Progress.clearIdle c.dialect {} lines) = c.find lines :=
    c.findFrom_clearIdle {} lines
  rw [split, split, h]

example : Progress.clearIdle .tsql {} ["/* a".toList, "GO".toList, "*/".toList, "SELECT 1".toList,
      "GO".toList, "go".toList] =
    [[], [], [], "SELECT 1".toList, "GO".toList, []] := by
  decide +kernel

end Cutting
end MigrationScript
