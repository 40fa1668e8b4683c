import MigrationScript.Proofs.Assembly
import MigrationScript.Splitting

/-!
Runs over the lines of a script. A script is laid out as lines that are dropped and lines that make
up statements, one statement after the other; the drafts of a run follow that layout.
-/
namespace MigrationScript

/-- An empty draft for a statement that starts at line `n`, with the delimiter in force. -/
def Gap.fresh (g : Gap) (n : Int) : Draft :=
  { line := n, override := g.delimiter }

namespace Gap

variable {d : Dialect} {g : Gap} {n : Int}

@[simp] theorem lines_fresh (body : List Text) : ((g.fresh n).addAll d body).lines = body := by
  simp [fresh]

@[simp] theorem origin_fresh (body : List Text) :
    ((g.fresh n).addAll d body).origin = g.fresh n := by
  simp [Draft.origin, fresh]

theorem finish_fresh (body : List Text) :
    ((g.fresh n).addAll d body).finish d false = ⟨n, Text.joinLines body⟩ := by
  simp [Draft.finish, Draft.text, fresh]

theorem assembled_fresh {body : List Text}
    (h : ((g.fresh n).addAll d body).terminated = true → (g.fresh n).EndsAt d body) :
    ((g.fresh n).addAll d body).Assembled d := by
  constructor
  · rw [origin_fresh, lines_fresh]
  · rw [origin_fresh, lines_fresh]
    exact h

end Gap

theorem Turn.ended?_some (r : Option Role) (s : Draft) (p : Progress) :
    Turn.ended? ⟨r, some s, p⟩ = if s.terminated then some s else none := by
  simp [Turn.ended?, Option.filter]

theorem Turn.terminated_of_ended? {t : Turn} {s : Draft} (h : t.ended? = some s) :
    s.terminated = true := by
  unfold Turn.ended? at h
  exact (Option.filter_eq_some_iff.mp h).2

theorem Turn.draft_of_ended? {t : Turn} {s : Draft} (h : t.ended? = some s) : t.draft ≠ none := by
  intro hd
  rw [Turn.ended?, hd] at h
  contradiction

namespace Progress

variable {d : Dialect} {n : Int} {g : Gap} {s : Draft}

theorem step_some (line : Text) :
    step d ⟨n, g, some s⟩ line = ⟨none, some (s.add d line), keep ⟨n, g, some s⟩ (s.add d line)⟩ :=
  rfl

theorem step_start {line : Text} (h : g.role d line = .start) :
    step d ⟨n, g, none⟩ line = ⟨some .start, some ((g.fresh n).add d line),
      keep ⟨n, g, none⟩ ((g.fresh n).add d line)⟩ := by
  simp only [step, h]
  rfl

theorem step_between {line : Text} (h : g.role d line ≠ .start) :
    step d ⟨n, g, none⟩ line =
      ⟨some (g.role d line), none, ⟨n + 1, g.after (g.role d line), none⟩⟩ := by
  simp only [step]

/-- The turns that a line can take: it is added to the statement in progress, it starts one, or it
is dropped. -/
inductive TakesTurn (d : Dialect) (line : Text) : Progress → Turn → Prop where
  | added {n : Int} {g : Gap} {s : Draft} : TakesTurn d line ⟨n, g, some s⟩
      ⟨none, some (s.add d line), keep ⟨n, g, some s⟩ (s.add d line)⟩
  | started {n : Int} {g : Gap} (role : g.role d line = .start) : TakesTurn d line ⟨n, g, none⟩
      ⟨some .start, some ((g.fresh n).add d line), keep ⟨n, g, none⟩ ((g.fresh n).add d line)⟩
  | dropped {n : Int} {g : Gap} (role : g.role d line ≠ .start) : TakesTurn d line ⟨n, g, none⟩
      ⟨some (g.role d line), none, ⟨n + 1, g.after (g.role d line), none⟩⟩

theorem takesTurn (d : Dialect) (p : Progress) (line : Text) :
    TakesTurn d line p (p.step d line) := by
  obtain ⟨n, g, _ | s⟩ := p
  · by_cases hr : g.role d line = .start
    · rw [step_start hr]
      exact .started hr
    · rw [step_between hr]
      exact .dropped hr
  · exact .added

section Step

variable {p : Progress} {line : Text}

/-- The role of a line decides what it leaves behind for the lines between statements. -/
theorem gap_step (p : Progress) (line : Text) :
    (p.step d line).after.gap = (p.step d line).role.elim p.gap p.gap.after := by
  have h := p.takesTurn d line
  generalize p.step d line = t at h ⊢
  cases h <;> rfl

theorem draft_step (hp : p.draft ≠ none) : (p.step d line).draft ≠ none := by
  have h := p.takesTurn d line
  generalize p.step d line = t at h ⊢
  cases h with
  | added => simp
  | started role => simp
  | dropped role => contradiction

theorem draft_of_role {r : Role} (hr : (p.step d line).role = some r) : p.draft = none := by
  have h := p.takesTurn d line
  generalize p.step d line = t at h hr
  cases h with
  | added => contradiction
  | started role => rfl
  | dropped role => rfl

theorem role_step (hp : p.draft = none) : (p.step d line).role = some (p.gap.role d line) := by
  have h := p.takesTurn d line
  generalize p.step d line = t at h ⊢
  cases h with
  | added => contradiction
  | started role => rw [role]
  | dropped role => rfl

end Step

theorem run_cons (p : Progress) (line : Text) (lines : List Text) :
    p.run d (line :: lines) = (p.step d line).after.run d lines := rfl

theorem run_append (p : Progress) (a b : List Text) : p.run d (a ++ b) = (p.run d a).run d b :=
  List.foldl_append

theorem turns_append (p : Progress) (a b : List Text) :
    p.turns d (a ++ b) = p.turns d a ++ (p.run d a).turns d b := by
  induction a generalizing p with
  | nil => rfl
  | cons line a ih => simp [turns, run_cons, ih]

/-- The statements that some lines end, as they are when they end. -/
def endedDrafts (d : Dialect) (p : Progress) (lines : List Text) : List Draft :=
  (p.turns d lines).filterMap Turn.ended?

/-- The statements of some lines: those that the lines end, and the one that is left open. -/
def drafts (d : Dialect) (p : Progress) (lines : List Text) : List Draft :=
  p.endedDrafts d lines ++ (p.run d lines).draft.toList

theorem endedDrafts_cons (p : Progress) (line : Text) (lines : List Text) :
    p.endedDrafts d (line :: lines) =
      (p.step d line).ended?.toList ++ (p.step d line).after.endedDrafts d lines := by
  cases h : (p.step d line).ended? <;> simp [endedDrafts, turns, h]

theorem endedDrafts_append (p : Progress) (a b : List Text) :
    p.endedDrafts d (a ++ b) = p.endedDrafts d a ++ (p.run d a).endedDrafts d b := by
  simp [endedDrafts, turns_append]

theorem drafts_append (p : Progress) (a b : List Text) :
    p.drafts d (a ++ b) = p.endedDrafts d a ++ (p.run d a).drafts d b := by
  simp [drafts, endedDrafts_append, run_append]

theorem drafts_nil (p : Progress) : p.drafts d [] = p.draft.toList := rfl

theorem drafts_cons (p : Progress) (line : Text) (lines : List Text) :
    p.drafts d (line :: lines) =
      (p.step d line).ended?.toList ++ (p.step d line).after.drafts d lines := by
  simp [drafts, endedDrafts_cons, run_cons]

/-- Lines that do not end a statement are all taken into it. -/
theorem run_open {body : List Text} (h : (s.addAll d body).terminated = false) :
    run d ⟨n, g, some s⟩ body = ⟨n + body.length, g, some (s.addAll d body)⟩ ∧
      endedDrafts d ⟨n, g, some s⟩ body = [] := by
  induction body generalizing n s with
  | nil => simp [run, endedDrafts, turns]
  | cons line body ih =>
    have hs : (s.add d line).terminated = false :=
      Draft.not_terminated_of_prefix (a := [line]) (by simp) h
    have hk : keep ⟨n, g, some s⟩ (s.add d line) = ⟨n + 1, g, some (s.add d line)⟩ := by
      simp [keep, hs]
    obtain ⟨hr, he⟩ := ih (n := n + 1) (s := s.add d line) h
    constructor
    · rw [run_cons, step_some, hk, hr, Draft.addAll_cons]
      simp only [List.length_cons, Progress.mk.injEq, and_true]
      omega
    · rw [endedDrafts_cons, step_some, hk, he]
      simp [Turn.ended?_some, hs]

/-- The lines up to the one that ends a statement give that statement and leave the gap as it was
before it. -/
theorem run_ended {body : List Text} (h : s.EndsAt d body) :
    run d ⟨n, g, some s⟩ body = ⟨n + body.length, g, none⟩ ∧
      endedDrafts d ⟨n, g, some s⟩ body = [s.addAll d body] := by
  obtain ⟨earlier, last, rfl⟩ : ∃ earlier last, body = earlier ++ [last] :=
    ⟨_, _, (List.dropLast_concat_getLast h.ne_nil).symm⟩
  have hb : (s.addAll d earlier).terminated = false := by simpa using h.before
  have hl : ((s.addAll d earlier).add d last).terminated = true := by
    simpa [Draft.addAll_concat] using h.last
  obtain ⟨hr, he⟩ := run_open (n := n) (g := g) hb
  constructor
  · rw [run_append, hr, run_cons, step_some]
    simp only [run, keep, hl, List.foldl_nil, if_true, List.length_append, List.length_singleton,
      Progress.mk.injEq, and_true]
    omega
  · rw [endedDrafts_append, he, hr, endedDrafts_cons, step_some, Turn.ended?_some, if_pos hl,
      Draft.addAll_concat]
    rfl

/-- The layout of lines that come at line number `n` in a gap: lines that are dropped, and
statements of a first line and the lines up to the one that ends them. Only the last statement may
be left open. -/
inductive Layout (d : Dialect) : Int → Gap → List Text → List Draft → Prop where
  | done {n : Int} {g : Gap} : Layout d n g [] []
  | dropped {n : Int} {g : Gap} {line : Text} {lines : List Text} {ss : List Draft}
      (role : g.role d line ≠ .start)
      (rest : Layout d (n + 1) (g.after (g.role d line)) lines ss) :
      Layout d n g (line :: lines) ss
  | ended {n : Int} {g : Gap} {first : Text} {more lines : List Text} {ss : List Draft}
      (role : g.role d first = .start) (ends : (g.fresh n).EndsAt d (first :: more))
      (rest : Layout d (n + (first :: more).length) g lines ss) :
      Layout d n g (first :: more ++ lines) ((g.fresh n).addAll d (first :: more) :: ss)
  | leftOpen {n : Int} {g : Gap} {first : Text} {more : List Text}
      (role : g.role d first = .start)
      (opens : ((g.fresh n).addAll d (first :: more)).terminated = false) :
      Layout d n g (first :: more) [(g.fresh n).addAll d (first :: more)]

/-- An open statement is ended after some of the lines that come, or stays open over all of them. -/
theorem exists_endsAt (hs : s.terminated = false) (lines : List Text) :
    (∃ body rest, lines = body ++ rest ∧ s.EndsAt d body) ∨
      (s.addAll d lines).terminated = false := by
  induction lines generalizing s with
  | nil => exact .inr hs
  | cons line lines ih =>
    by_cases h : (s.add d line).terminated = true
    · exact .inl ⟨[line], lines, rfl, h, hs⟩
    · rcases ih (by simpa using h) with ⟨body, rest, rfl, he⟩ | ho
      · refine .inl ⟨line :: body, rest, rfl, he.last, ?_⟩
        rw [List.dropLast_cons_of_ne_nil he.ne_nil]
        exact he.before
      · exact .inr ho

/-- A statement that starts at the first of some lines takes in the lines up to its end. -/
theorem run_fresh_ended {first : Text} {more : List Text} (hr : g.role d first = .start)
    (he : (g.fresh n).EndsAt d (first :: more)) :
    run d ⟨n, g, none⟩ (first :: more) = ⟨n + (first :: more).length, g, none⟩ ∧
      endedDrafts d ⟨n, g, none⟩ (first :: more) = [(g.fresh n).addAll d (first :: more)] := by
  have h := run_ended (n := n) (g := g) he
  rw [run_cons, endedDrafts_cons, step_some] at h
  rw [run_cons, endedDrafts_cons, step_start hr]
  exact h

/-- A statement that no line ends takes in all lines. -/
theorem run_fresh_open {first : Text} {more : List Text} (hr : g.role d first = .start)
    (ho : ((g.fresh n).addAll d (first :: more)).terminated = false) :
    run d ⟨n, g, none⟩ (first :: more) =
        ⟨n + (first :: more).length, g, some ((g.fresh n).addAll d (first :: more))⟩ ∧
      endedDrafts d ⟨n, g, none⟩ (first :: more) = [] := by
  have h := run_open (n := n) (g := g) ho
  rw [run_cons, endedDrafts_cons, step_some] at h
  rw [run_cons, endedDrafts_cons, step_start hr]
  exact h

/-- The drafts of a run are laid out over its lines. -/
theorem layout_drafts (d : Dialect) (n : Int) (g : Gap) (lines : List Text) :
    Layout d n g lines (drafts d ⟨n, g, none⟩ lines) := by
  match lines with
  | [] => exact .done
  | first :: more =>
    by_cases hr : g.role d first = .start
    · rcases exists_endsAt (d := d) (s := g.fresh n) rfl (first :: more) with
        ⟨body, rest, hb, he⟩ | ho
      · obtain ⟨b, body, rfl⟩ := List.exists_cons_of_ne_nil he.ne_nil
        obtain ⟨rfl, hm⟩ := List.cons.inj hb
        have hm : more = body ++ rest := hm
        subst hm
        obtain ⟨hrun, hended⟩ := run_fresh_ended hr he
        have ih := layout_drafts d (n + (first :: body).length) g rest
        rw [← List.cons_append, drafts_append, hended, hrun]
        exact .ended hr he ih
      · obtain ⟨hrun, hended⟩ := run_fresh_open hr ho
        rw [drafts, hended, hrun]
        exact .leftOpen hr ho
    · have ih := layout_drafts d (n + 1) (g.after (g.role d first)) more
      rw [drafts_cons, step_between hr]
      exact .dropped hr ih
termination_by lines.length

/-- There is one layout only, that of the run. -/
theorem Layout.eq_drafts {lines : List Text} {ss : List Draft} (h : Layout d n g lines ss) :
    ss = drafts d ⟨n, g, none⟩ lines := by
  induction h with
  | done => rfl
  | dropped role rest ih =>
    rw [drafts_cons, step_between role, ih]
    rfl
  | ended role ends rest ih =>
    obtain ⟨hrun, hended⟩ := run_fresh_ended role ends
    rw [drafts_append, hended, hrun, ← ih, List.singleton_append]
  | leftOpen role opens =>
    obtain ⟨hrun, hended⟩ := run_fresh_open role opens
    rw [drafts, hended, hrun]
    rfl

theorem Layout.lines_ne_nil {lines : List Text} {ss : List Draft} (h : Layout d n g lines ss) :
    ∀ s ∈ ss, s.lines ≠ [] := by
  induction h with
  | done => simp
  | dropped role rest ih => exact ih
  | ended role ends rest ih =>
    refine List.forall_mem_cons.mpr ⟨?_, ih⟩
    rw [Gap.lines_fresh]
    exact List.cons_ne_nil _ _
  | leftOpen role opens =>
    intro s hs
    rw [List.mem_singleton.mp hs, Gap.lines_fresh]
    exact List.cons_ne_nil _ _

/-- The statements of a layout are assembled from lines of the script. -/
theorem Layout.assembled {lines : List Text} {ss : List Draft} (h : Layout d n g lines ss) :
    ∀ s ∈ ss, s.Assembled d ∧ s.lines ⊆ lines := by
  induction h with
  | done => simp
  | dropped role rest ih =>
    intro s hs
    obtain ⟨ha, hl⟩ := ih s hs
    exact ⟨ha, List.subset_cons_of_subset _ hl⟩
  | @ended n g first more lines ss role ends rest ih =>
    intro s hs
    rcases List.mem_cons.mp hs with rfl | hs
    · refine ⟨Gap.assembled_fresh fun _ => ends, ?_⟩
      rw [Gap.lines_fresh]
      exact List.subset_append_left _ _
    · obtain ⟨ha, hl⟩ := ih s hs
      exact ⟨ha, List.subset_append_of_subset_right _ hl⟩
  | @leftOpen n g first more role opens =>
    intro s hs
    obtain rfl := List.mem_singleton.mp hs
    refine ⟨Gap.assembled_fresh fun ht => ?_, ?_⟩
    · rw [opens] at ht
      contradiction
    · rw [Gap.lines_fresh]
      exact List.Subset.refl _

theorem assembled_drafts (d : Dialect) (lines : List Text) :
    ∀ s ∈ drafts d {} lines, s.Assembled d ∧ s.lines ⊆ lines :=
  (layout_drafts d 1 {} lines).assembled

end Progress

namespace Cutting

/-- What is found are the drafts of the run, each finished. -/
theorem findFrom_eq (c : Cutting) (p : Progress) (lines : List Text) :
    c.findFrom p lines = (p.drafts c.dialect lines).map c.finish := by
  induction lines generalizing p with
  | nil => rw [findFrom, Progress.drafts_nil]
  | cons line lines ih => simp [findFrom, Progress.drafts_cons, ih]

theorem split_eq (c : Cutting) (lines : List Text) :
    c.split lines = (Progress.drafts c.dialect {} lines).map (Draft.finish c.dialect c.strip) := by
  simp [split, find, findFrom_eq, finish, Function.comp_def]

end Cutting
end MigrationScript
