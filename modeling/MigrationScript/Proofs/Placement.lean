import MigrationScript.Proofs.Layout

/-!
Where the statements of a script stand. Each is made up of lines that follow each other; the first
of them starts it in the state that the lines before it leave, and none of them has another role.
-/
namespace MigrationScript.Progress

variable {d : Dialect} {n : Int} {g : Gap} {p : Progress} {s : Draft}

/-- A line's turn is taken in the state that the lines before it leave. -/
theorem turns_middle (p : Progress) (a : List Text) (line : Text) (b : List Text) :
    (p.turns d (a ++ line :: b))[a.length]? = some ((p.run d a).step d line) := by
  induction a generalizing p with
  | nil => rfl
  | cons first a ih => exact ih (p.step d first).after

theorem length_turns (p : Progress) (lines : List Text) :
    (p.turns d lines).length = lines.length := by
  induction lines generalizing p with
  | nil => rfl
  | cons line lines ih => rw [turns, List.length_cons, ih, List.length_cons]

/-- Lines that are all added to a statement have no role between statements. -/
theorem role_turns_of_open {body : List Text}
    (h : ∀ t, t <+: body → t ≠ body → (s.addAll d t).terminated = false) :
    ∀ t ∈ turns d ⟨n, g, some s⟩ body, t.role = none := by
  induction body generalizing n s with
  | nil => simp [turns]
  | cons line body ih =>
    intro t ht
    rcases List.mem_cons.mp ht with rfl | ht
    · rfl
    · by_cases hb : body = []
      · subst hb
        contradiction
      · have hs : (s.add d line).terminated = false :=
          h [line] ⟨body, rfl⟩ fun he => hb (List.cons.inj he).2.symm
        have hk : keep ⟨n, g, some s⟩ (s.add d line) = ⟨n + 1, g, some (s.add d line)⟩ := by
          simp [keep, hs]
        rw [step_some, hk] at ht
        refine ih (fun u hu hne => ?_) t ht
        exact h (line :: u) (List.cons_prefix_cons.mpr ⟨rfl, hu⟩) fun he => hne (List.cons.inj he).2

/-- The lines of a statement, up to its end or as many as there are, have no role between
statements, but for the first, which starts it. -/
theorem role_turns_of_start {first : Text} {more : List Text} (hr : g.role d first = .start)
    (h : ∀ t, t <+: first :: more → t ≠ first :: more →
      ((g.fresh n).addAll d t).terminated = false) :
    ∀ t ∈ turns d ⟨n, g, none⟩ (first :: more), t.role = none ∨ t.role = some .start := by
  have hopen := role_turns_of_open (n := n) (g := g) h
  intro t ht
  rw [turns, step_start hr] at ht
  rcases List.mem_cons.mp ht with rfl | ht
  · exact .inr rfl
  · exact .inl (hopen t (List.mem_cons_of_mem _ ht))

/-- The statement `s` stands behind the lines `a`, which are met in the state `p`. -/
structure StandsBehind (d : Dialect) (p : Progress) (a : List Text) (s : Draft) : Prop where
  idle : (p.run d a).draft = none
  number : s.line = p.number + a.length
  own : ((p.run d a).gap.fresh s.line).addAll d s.lines = s
  roles : ∀ t ∈ (p.run d a).turns d s.lines, t.role = none ∨ t.role = some .start

/-- Lines that lead from one state between statements to another move the places behind them. -/
theorem StandsBehind.append {n' : Int} {g' : Gap} {b a : List Text}
    (h : StandsBehind d ⟨n', g', none⟩ a s) (hrun : run d ⟨n, g, none⟩ b = ⟨n', g', none⟩)
    (hn : n' = n + b.length) : StandsBehind d ⟨n, g, none⟩ (b ++ a) s := by
  have hall : run d ⟨n, g, none⟩ (b ++ a) = run d ⟨n', g', none⟩ a := by rw [run_append, hrun]
  constructor
  · rw [hall]
    exact h.idle
  · have hnumber := h.number
    simp only [List.length_append] at hnumber ⊢
    omega
  · rw [hall]
    exact h.own
  · rw [hall]
    exact h.roles

/-- A statement that starts at the first line stands behind no lines. -/
theorem StandsBehind.first {first : Text} {more : List Text} (hr : g.role d first = .start)
    (h : ∀ t, t <+: first :: more → t ≠ first :: more →
      ((g.fresh n).addAll d t).terminated = false) :
    StandsBehind d ⟨n, g, none⟩ [] ((g.fresh n).addAll d (first :: more)) := by
  have hline : ((g.fresh n).addAll d (first :: more)).line = n := Draft.line_addAll _
  constructor
  · rfl
  · simpa using hline
  · rw [hline, Gap.lines_fresh]
    rfl
  · rw [Gap.lines_fresh]
    exact role_turns_of_start hr h

/-- Every statement of a layout stands somewhere in its lines. -/
theorem Layout.exists_standsBehind {lines : List Text} {ss : List Draft}
    (h : Layout d n g lines ss) :
    ∀ s ∈ ss, ∃ a b, lines = a ++ (s.lines ++ b) ∧ StandsBehind d ⟨n, g, none⟩ a s := by
  induction h with
  | done => simp
  | @dropped n g line lines ss role rest ih =>
    intro s hs
    obtain ⟨a, b, rfl, hstands⟩ := ih s hs
    have hrun : run d ⟨n, g, none⟩ [line] = ⟨n + 1, g.after (g.role d line), none⟩ := by
      rw [run_cons, step_between role]
      rfl
    exact ⟨line :: a, b, rfl, hstands.append hrun rfl⟩
  | @ended n g first more lines ss role ends rest ih =>
    intro s hs
    rcases List.mem_cons.mp hs with rfl | hs
    · refine ⟨[], lines, ?_, .first role fun t => ends.of_prefix⟩
      rw [Gap.lines_fresh, List.nil_append]
    · obtain ⟨a, b, rfl, hstands⟩ := ih s hs
      exact ⟨first :: more ++ a, b, by rw [List.append_assoc],
        hstands.append (run_fresh_ended role ends).1 rfl⟩
  | @leftOpen n g first more role opens =>
    intro s hs
    obtain rfl := List.mem_singleton.mp hs
    refine ⟨[], [], ?_, .first role fun t ht _ => Draft.not_terminated_of_prefix ht opens⟩
    rw [Gap.lines_fresh, List.nil_append, List.append_nil]

/-- Every statement of a script stands somewhere in it. -/
theorem exists_standsBehind {lines : List Text} (hs : s ∈ drafts d {} lines) :
    ∃ a b, lines = a ++ (s.lines ++ b) ∧ StandsBehind d {} a s :=
  (layout_drafts d 1 {} lines).exists_standsBehind s hs

/-- A line with a role other than that of a first line belongs to no statement. -/
theorem StandsBehind.outside {a b c e : List Text} {line : Text} {r : Role}
    (h : StandsBehind d p a s) (heq : a ++ (s.lines ++ b) = c ++ line :: e)
    (hrole : ((p.run d c).step d line).role = some r) (hr : r ≠ .start) :
    c.length < a.length ∨ a.length + s.lines.length ≤ c.length := by
  by_cases hbefore : c.length < a.length
  · exact .inl hbefore
  by_cases hbehind : a.length + s.lines.length ≤ c.length
  · exact .inr hbehind
  have hturn := turns_middle (d := d) p c line e
  rw [← heq, turns_append, List.getElem?_append_right (by rw [length_turns]; omega), turns_append,
    List.getElem?_append_left (by rw [length_turns, length_turns]; omega)] at hturn
  rcases h.roles _ (List.mem_of_getElem? hturn) with hn | hs
  · rw [hrole] at hn
    contradiction
  · rw [hrole] at hs
    exact absurd (Option.some.inj hs) hr

end MigrationScript.Progress
