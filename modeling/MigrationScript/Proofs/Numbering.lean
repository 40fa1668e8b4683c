import MigrationScript.Proofs.Parallel

/-!
Line numbers. A statement carries its number along and nothing depends on it: a run that starts at
another line finds the same statements, with other numbers.
-/
namespace MigrationScript

/-- The statement, `k` lines further on. -/
def Statement.shift (k : Int) (s : Statement) : Statement :=
  { s with line := s.line + k }

namespace Draft

variable {d : Dialect} {s : Draft} {k : Int} {body : List Text}

/-- The draft, `k` lines further on. -/
def shift (k : Int) (s : Draft) : Draft :=
  { s with line := s.line + k }

@[simp] theorem terminated_shift : (s.shift k).terminated = s.terminated := rfl

theorem add_shift (line : Text) : (s.shift k).add d line = (s.add d line).shift k := rfl

@[simp] theorem addAll_shift (body : List Text) :
    (s.shift k).addAll d body = (s.addAll d body).shift k := by
  induction body generalizing s with
  | nil => rfl
  | cons line body ih => rw [addAll_cons, add_shift, ih, addAll_cons]

theorem finish_shift (strip : Bool) : (s.shift k).finish d strip = (s.finish d strip).shift k := rfl

theorem EndsAt.shift (h : s.EndsAt d body) (k : Int) : (s.shift k).EndsAt d body where
  last := by
    rw [addAll_shift, terminated_shift]
    exact h.last
  before := by
    rw [addAll_shift, terminated_shift]
    exact h.before

end Draft

/-- An empty draft that starts `k` lines further on. -/
theorem Gap.fresh_shift (g : Gap) (n k : Int) : (g.fresh n).shift k = g.fresh (n + k) := rfl

/-- The state, `k` lines further on. -/
def Progress.shift (k : Int) (p : Progress) : Progress :=
  { p with number := p.number + k, draft := p.draft.map (Draft.shift k) }

/-- The same lines, `k` lines further on. -/
def Change.later (k : Int) : Change :=
  { draft := Draft.shift k, number := k }

theorem Change.later_fits (d : Dialect) (k : Int) : (later k).Fits d fun _ => True where
  good_fresh := by simp
  good_add := by simp
  terminated := fun _ => rfl
  add := fun _ _ _ => rfl
  fresh := fun _ _ => rfl
  role := fun _ _ => rfl
  start := fun _ => Iff.rfl
  after := fun _ _ => rfl

namespace Progress

variable {d : Dialect} {p : Progress} {k : Int}

/-- Lines give the same statements at every line number. -/
theorem drafts_shift (lines : List Text) :
    (p.shift k).drafts d lines = (p.drafts d lines).map (Draft.shift k) := by
  have h := (Change.later_fits d k).drafts (p := p) (by simp) lines
  rwa [show (Change.later k).line = id from rfl, List.map_id] at h

theorem number_step (p : Progress) (line : Text) :
    (p.step d line).after.number = p.number + 1 := by
  have h := p.takesTurn d line
  generalize p.step d line = t at h ⊢
  cases h <;> rfl

theorem number_run (p : Progress) (lines : List Text) :
    (p.run d lines).number = p.number + lines.length := by
  induction lines generalizing p with
  | nil => simp [run]
  | cons line lines ih =>
    rw [run_cons, ih, number_step, List.length_cons]
    omega

/-- Lines that leave no statement, no comment and no directive behind lead to the state before them,
only further on. -/
theorem run_afresh {lines : List Text} (hdraft : (run d {} lines).draft = none)
    (hcomment : (run d {} lines).gap.inComment = false)
    (hdelimiter : (run d {} lines).gap.delimiter = none) :
    run d {} lines = shift lines.length {} := by
  have hnumber : (run d {} lines).number = 1 + lines.length := number_run {} lines
  rcases hp : run d {} lines with ⟨n, ⟨o, x⟩, s⟩
  rw [hp] at hdraft hcomment hdelimiter hnumber
  subst hdraft hcomment hdelimiter hnumber
  rfl

end Progress
end MigrationScript
