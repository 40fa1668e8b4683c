import MigrationScript.Proofs.Layout

/-!
Runs side by side. A change of lines, statements and gaps that goes along with every single step
goes along with whole runs, so that the statements which are found differ by that change only.
-/
namespace MigrationScript

/-- A change of a script's lines, and what becomes by it of statements, of gaps, of the roles that
lines have in them, and of line numbers, which are all raised by `number`. -/
structure Change where
  line : Text → Text := id
  draft : Draft → Draft := id
  gap : Gap → Gap := id
  role : Role → Role := id
  number : Int := 0

namespace Change

/-- The steps of dialect `d` go along with the change. Of the statements in progress only those
matter that have `Good`. -/
structure Fits (x : Change) (d : Dialect) (Good : Draft → Prop) : Prop where
  good_fresh : ∀ g n, Good (Gap.fresh g n)
  good_add : ∀ s t, Good s → Good (s.add d t)
  terminated : ∀ s, (x.draft s).terminated = s.terminated
  add : ∀ s t, Good s → (x.draft s).add d (x.line t) = x.draft (s.add d t)
  fresh : ∀ g n, (x.gap g).fresh (n + x.number) = x.draft (Gap.fresh g n)
  role : ∀ g t, (x.gap g).role d (x.line t) = x.role (g.role d t)
  start : ∀ r, x.role r = .start ↔ r = .start
  after : ∀ g r, (x.gap g).after (x.role r) = x.gap (g.after r)

/-- What becomes of a state. -/
def progress (x : Change) (p : Progress) : Progress :=
  { number := p.number + x.number, gap := x.gap p.gap, draft := p.draft.map x.draft }

namespace Fits

variable {x : Change} {d : Dialect} {Good : Draft → Prop} {p : Progress}

theorem keep (h : x.Fits d Good) (p : Progress) (s : Draft) :
    (x.progress p).keep (x.draft s) = x.progress (p.keep s) := by
  have hs := h.terminated s
  cases ht : s.terminated with
  | true => simp [Progress.keep, progress, hs, ht]; omega
  | false => simp [Progress.keep, progress, hs, ht]; omega

/-- One step: the statement with the line, and the state behind it. -/
theorem step (h : x.Fits d Good) (hp : ∀ s, p.draft = some s → Good s) (line : Text) :
    ((x.progress p).step d (x.line line)).draft = (p.step d line).draft.map x.draft ∧
      ((x.progress p).step d (x.line line)).after = x.progress (p.step d line).after := by
  have ht := p.takesTurn d line
  generalize p.step d line = t at ht ⊢
  cases ht with
  | @added n g s =>
    have hprog : x.progress ⟨n, g, some s⟩ = ⟨n + x.number, x.gap g, some (x.draft s)⟩ := rfl
    have hkeep := h.keep ⟨n, g, some s⟩ (s.add d line)
    rw [hprog] at hkeep ⊢
    rw [Progress.step_some, h.add s line (hp s rfl)]
    exact ⟨rfl, hkeep⟩
  | @started n g role =>
    have hprog : x.progress ⟨n, g, none⟩ = ⟨n + x.number, x.gap g, none⟩ := rfl
    have hkeep := h.keep ⟨n, g, none⟩ ((g.fresh n).add d line)
    have hrole : (x.gap g).role d (x.line line) = .start := by
      rw [h.role, h.start]
      exact role
    rw [hprog] at hkeep ⊢
    rw [Progress.step_start hrole, h.fresh, h.add _ line (h.good_fresh g n)]
    exact ⟨rfl, hkeep⟩
  | @dropped n g role =>
    have hprog : x.progress ⟨n, g, none⟩ = ⟨n + x.number, x.gap g, none⟩ := rfl
    have hrole : (x.gap g).role d (x.line line) ≠ .start := by
      rw [h.role, Ne, h.start]
      exact role
    rw [hprog, Progress.step_between hrole, h.role, h.after]
    refine ⟨rfl, ?_⟩
    simp only [progress, Option.map_none, Progress.mk.injEq, and_true]
    omega

theorem ended? (h : x.Fits d Good) (hp : ∀ s, p.draft = some s → Good s) (line : Text) :
    ((x.progress p).step d (x.line line)).ended? = (p.step d line).ended?.map x.draft := by
  rw [Turn.ended?, Turn.ended?, (h.step hp line).1]
  cases (p.step d line).draft with
  | none => rfl
  | some s => cases ht : s.terminated <;> simp [Option.filter, h.terminated, ht]

/-- The statement in progress behind a line is a good one again. -/
theorem good_step (h : x.Fits d Good) (hp : ∀ s, p.draft = some s → Good s) (line : Text) :
    ∀ s, (p.step d line).after.draft = some s → Good s := by
  have hkeep {q : Progress} {s : Draft} (hs : Good s) : ∀ u, (q.keep s).draft = some u → Good u := by
    intro u hu
    cases ht : s.terminated with
    | true => simp [Progress.keep, ht] at hu
    | false =>
      obtain rfl : s = u := by simpa [Progress.keep, ht] using hu
      exact hs
  have ht := p.takesTurn d line
  generalize p.step d line = t at ht ⊢
  cases ht with
  | added => exact hkeep (h.good_add _ line (hp _ rfl))
  | started role => exact hkeep (h.good_add _ line (h.good_fresh _ _))
  | dropped role =>
    intro s hs
    contradiction

/-- The statements of the changed lines are the changed statements of the lines. -/
theorem drafts (h : x.Fits d Good) (hp : ∀ s, p.draft = some s → Good s) (lines : List Text) :
    (x.progress p).drafts d (lines.map x.line) = (p.drafts d lines).map x.draft := by
  induction lines generalizing p with
  | nil =>
    rw [List.map_nil, Progress.drafts_nil, Progress.drafts_nil, progress]
    cases p.draft <;> rfl
  | cons line lines ih =>
    rw [List.map_cons, Progress.drafts_cons, Progress.drafts_cons, h.ended? hp, (h.step hp line).2,
      ih (h.good_step hp line), List.map_append]
    cases (p.step d line).ended? <;> rfl

end Fits
end Change
end MigrationScript
