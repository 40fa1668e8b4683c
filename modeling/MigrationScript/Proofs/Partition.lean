import MigrationScript.Proofs.Layout

/-!
The statements of a script are ranges of its lines. The ranges follow each other, a statement is
the lines of its range, and a line outside all ranges is one that was dropped between statements.
-/
namespace MigrationScript

/-- The lines `first` to `last` of a script, counted from one. -/
structure LineRange where
  first : Nat
  last : Nat
  deriving DecidableEq, Repr

namespace LineRange

def cut (r : LineRange) (lines : List Text) : List Text :=
  (lines.take r.last).drop (r.first - 1)

def Contains (r : LineRange) (k : Nat) : Prop :=
  r.first ≤ k ∧ k ≤ r.last

theorem cut_append (done body rest : List Text) {j : Nat} (hj : j ≤ body.length) :
    cut ⟨done.length + 1, done.length + j⟩ (done ++ (body ++ rest)) = body.take j := by
  simp only [cut, Nat.add_sub_cancel, List.take_length_add_append, List.drop_left]
  exact List.take_append_of_le_length hj

theorem cut_all (done body rest : List Text) :
    cut ⟨done.length + 1, done.length + body.length⟩ (done ++ (body ++ rest)) = body := by
  rw [cut_append done body rest (Nat.le_refl _), List.take_length]

end LineRange

/-- The state in which line `k` of a script is met. -/
def Progress.before (d : Dialect) (lines : List Text) (k : Nat) : Progress :=
  run d {} (lines.take (k - 1))

theorem Progress.before_append (d : Dialect) (done rest : List Text) :
    before d (done ++ rest) (done.length + 1) = run d {} done := by
  simp [before]

/-- The statements `found` are those of the lines after the first `m`, and lie on the given ranges:
a fresh statement with the delimiter that is in force at the start of a range is ended by the last
line of the range and by no line before it, and only the last statement may lack its end. -/
structure IsPartition (d : Dialect) (lines : List Text) (m : Nat) (found : List Statement)
    (ranges : List LineRange) : Prop where
  bounds : ∀ r ∈ ranges, m < r.first ∧ r.first ≤ r.last ∧ r.last ≤ lines.length
  apart : ranges.Pairwise fun r r' => r.last < r'.first
  statements : found = ranges.map fun r => ⟨r.first, Text.joinLines (r.cut lines)⟩
  opens : ∀ r ∈ ranges, ∀ k, r.first ≤ k → k < r.last →
    (((Progress.before d lines r.first).gap.fresh r.first).addAll d
      (LineRange.cut ⟨r.first, k⟩ lines)).terminated = false
  ends : ∀ r ∈ ranges,
    (((Progress.before d lines r.first).gap.fresh r.first).addAll d
      (r.cut lines)).terminated = true ∨ (ranges.getLast? = some r ∧ r.last = lines.length)
  dropped : ∀ k, m < k → k ≤ lines.length → (∀ r ∈ ranges, ¬ r.Contains k) →
    ∃ line role, lines[k - 1]? = some line ∧
      ((Progress.before d lines k).step d line).role = some role ∧ role ≠ .start

namespace IsPartition

variable {d : Dialect} {done : List Text} {n : Int} {g : Gap}

theorem nil (d : Dialect) (done : List Text) : IsPartition d done done.length [] [] where
  bounds := by simp
  apart := .nil
  statements := rfl
  opens := by simp
  ends := by simp
  dropped := by
    intro k hk hl
    omega

/-- A dropped line stands before the ranges. -/
theorem cons_dropped {line : Text} {rest : List Text} {found : List Statement}
    {ranges : List LineRange} (hrun : Progress.run d {} done = ⟨n, g, none⟩)
    (hr : g.role d line ≠ .start)
    (h : IsPartition d (done ++ line :: rest) (done.length + 1) found ranges) :
    IsPartition d (done ++ line :: rest) done.length found ranges where
  bounds := by
    intro r hmem
    have := h.bounds r hmem
    omega
  apart := h.apart
  statements := h.statements
  opens := h.opens
  ends := h.ends
  dropped := by
    intro k hk hl hout
    by_cases hfirst : k = done.length + 1
    · subst hfirst
      refine ⟨line, g.role d line, by simp, ?_, hr⟩
      rw [Progress.before_append, hrun, Progress.step_between hr]
    · exact h.dropped k (by omega) hl hout

private theorem fresh_before (rest : List Text) (hrun : Progress.run d {} done = ⟨n, g, none⟩)
    (hn : n = done.length + 1) :
    (Progress.before d (done ++ rest) (done.length + 1)).gap.fresh (done.length + 1 : Nat) =
      g.fresh n := by
  rw [Progress.before_append, hrun, hn]
  rfl

/-- The range of a statement's lines is open before its last line. -/
private theorem head_opens {body rest : List Text} (hrun : Progress.run d {} done = ⟨n, g, none⟩)
    (hn : n = done.length + 1)
    (h : ∀ t, t <+: body → t ≠ body → ((g.fresh n).addAll d t).terminated = false)
    {k : Nat} (hk : done.length + 1 ≤ k) (hl : k < done.length + body.length) :
    (((Progress.before d (done ++ (body ++ rest)) (done.length + 1)).gap.fresh
        (done.length + 1 : Nat)).addAll d
      (LineRange.cut ⟨done.length + 1, k⟩ (done ++ (body ++ rest)))).terminated = false := by
  obtain ⟨j, rfl⟩ : ∃ j, k = done.length + j := ⟨k - done.length, by omega⟩
  have hj : j < body.length := by omega
  rw [fresh_before _ hrun hn, LineRange.cut_append done body rest (Nat.le_of_lt hj)]
  refine h _ (List.take_prefix j body) ?_
  intro ht
  have hlen := congrArg List.length ht
  rw [List.length_take] at hlen
  omega

/-- The first lines make up a statement, which the last of them ends. -/
theorem cons_ended {body rest : List Text} {found : List Statement} {ranges : List LineRange}
    (hrun : Progress.run d {} done = ⟨n, g, none⟩) (hn : n = done.length + 1)
    (he : (g.fresh n).EndsAt d body)
    (h : IsPartition d (done ++ (body ++ rest)) (done.length + body.length) found ranges) :
    IsPartition d (done ++ (body ++ rest)) done.length (⟨n, Text.joinLines body⟩ :: found)
      (⟨done.length + 1, done.length + body.length⟩ :: ranges) where
  bounds := by
    have hpos := List.length_pos_iff.mpr he.ne_nil
    intro r hmem
    rcases List.mem_cons.mp hmem with rfl | hmem
    · simp only [List.length_append]
      omega
    · have := h.bounds r hmem
      omega
  apart := by
    refine List.pairwise_cons.mpr ⟨?_, h.apart⟩
    intro r hmem
    exact (h.bounds r hmem).1
  statements := by
    rw [List.map_cons, LineRange.cut_all, ← h.statements, hn]
    rfl
  opens := by
    intro r hmem k hk hl
    rcases List.mem_cons.mp hmem with rfl | hmem
    · exact head_opens hrun hn (fun t => he.of_prefix) hk hl
    · exact h.opens r hmem k hk hl
  ends := by
    intro r hmem
    rcases List.mem_cons.mp hmem with rfl | hmem
    · left
      rw [fresh_before _ hrun hn, LineRange.cut_all]
      exact he.last
    · rcases h.ends r hmem with ht | ⟨hlast, hl⟩
      · exact .inl ht
      · exact .inr ⟨by rw [List.getLast?_cons, hlast]; rfl, hl⟩
  dropped := by
    intro k hk hl hout
    have hfirst := hout _ List.mem_cons_self
    simp only [LineRange.Contains, not_and] at hfirst
    exact h.dropped k (by omega) hl fun r hmem => hout r (List.mem_cons_of_mem _ hmem)

/-- All lines make up a statement that stays open. -/
theorem single_open {body : List Text} (hrun : Progress.run d {} done = ⟨n, g, none⟩)
    (hn : n = done.length + 1) (hb : body ≠ [])
    (ho : ((g.fresh n).addAll d body).terminated = false) :
    IsPartition d (done ++ (body ++ [])) done.length [⟨n, Text.joinLines body⟩]
      [⟨done.length + 1, done.length + body.length⟩] where
  bounds := by
    have hpos := List.length_pos_iff.mpr hb
    intro r hmem
    obtain rfl := List.mem_singleton.mp hmem
    simp only [List.length_append]
    omega
  apart := List.pairwise_singleton _ _
  statements := by
    rw [List.map_singleton, LineRange.cut_all, hn]
    rfl
  opens := by
    intro r hmem k hk hl
    obtain rfl := List.mem_singleton.mp hmem
    exact head_opens hrun hn (fun t ht _ => Draft.not_terminated_of_prefix ht ho) hk hl
  ends := by
    intro r hmem
    obtain rfl := List.mem_singleton.mp hmem
    exact .inr ⟨rfl, by simp⟩
  dropped := by
    intro k hk hl hout
    have hfirst := hout _ (List.mem_singleton.mpr rfl)
    simp only [LineRange.Contains, not_and] at hfirst
    simp only [List.length_append, List.length_nil] at hl
    omega

end IsPartition

/-- A layout of the lines after `done` puts its statements on ranges. -/
theorem Progress.Layout.exists_ranges {d : Dialect} {n : Int} {g : Gap} {lines : List Text}
    {ss : List Draft} (h : Layout d n g lines ss) (done : List Text)
    (hrun : run d {} done = ⟨n, g, none⟩) (hn : n = done.length + 1) :
    ∃ ranges, IsPartition d (done ++ lines) done.length (ss.map (Draft.finish d false))
      ranges := by
  induction h generalizing done with
  | done =>
    rw [List.append_nil]
    exact ⟨[], .nil d done⟩
  | @dropped n g line lines ss role rest ih =>
    have hrun' : run d {} (done ++ [line]) = ⟨n + 1, g.after (g.role d line), none⟩ := by
      rw [run_append, hrun, run_cons, step_between role]
      rfl
    obtain ⟨ranges, h⟩ := ih _ hrun' (by simp; omega)
    rw [List.append_assoc, List.length_append] at h
    exact ⟨ranges, .cons_dropped hrun role h⟩
  | @ended n g first more lines ss role ends rest ih =>
    have hrun' : run d {} (done ++ first :: more) = ⟨n + (first :: more).length, g, none⟩ := by
      rw [run_append, hrun]
      exact (run_fresh_ended role ends).1
    obtain ⟨ranges, h⟩ := ih _ hrun' (by simp; omega)
    rw [List.append_assoc, List.length_append] at h
    rw [List.map_cons, Gap.finish_fresh]
    exact ⟨_, .cons_ended hrun hn ends h⟩
  | @leftOpen n g first more role opens =>
    have h := IsPartition.single_open hrun hn (List.cons_ne_nil first more) opens
    rw [List.append_nil] at h
    rw [List.map_singleton, Gap.finish_fresh]
    exact ⟨_, h⟩

/-- The statements of a script are ranges of its lines, and all other lines were dropped. -/
theorem split_isPartition (d : Dialect) (lines : List Text) :
    ∃ ranges, IsPartition d lines 0 (Cutting.split ⟨d, false⟩ lines) ranges := by
  rw [Cutting.split_eq]
  exact (Progress.layout_drafts d 1 {} lines).exists_ranges [] rfl rfl

end MigrationScript
