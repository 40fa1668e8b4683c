import MigrationScript.Log.Loggers

/-!
Which loggers stand above a name. They are known, and the name goes on from theirs with a point;
the root is among them if the name goes on from the root's with a single point.
-/
namespace MigrationScript

namespace Logger

variable {known : Text → Bool} {back q root x : Text}

theorem of_mem_namesAbove (h : q ∈ namesAbove known back) :
    known q = true ∧ q ++ ['.'] <+: back.reverse := by
  fun_induction namesAbove known back with
  | case1 => contradiction
  | case2 => contradiction
  | case3 d back hknown ih =>
    rw [List.reverse_cons]
    rcases List.mem_cons.mp h with rfl | h
    · exact ⟨hknown, List.prefix_refl _⟩
    · exact ⟨(ih h).1, (ih h).2.trans (List.prefix_append _ _)⟩
  | case4 d back hknown ih =>
    refine ⟨(ih h).1, (ih h).2.trans ?_⟩
    rw [List.reverse_cons, List.reverse_cons, List.append_assoc]
    exact List.prefix_append _ _
  | case5 c d back hc ih =>
    rw [List.reverse_cons]
    exact ⟨(ih h).1, (ih h).2.trans (List.prefix_append _ _)⟩

/-- A search that passes a name over leaves out the character in front of the point; only if that is
a point, too, can it miss a name. -/
theorem mem_namesAbove (hroot : root ≠ []) (hknown : known root = true)
    (hpoint : ∀ y, x ≠ y ++ ['.']) (h : back = x ++ '.' :: root.reverse) :
    root ∈ namesAbove known back := by
  fun_induction namesAbove known back generalizing x with
  | case1 => simp at h
  | case2 c =>
    have hlength := congrArg List.length h
    have := List.length_pos_iff.mpr hroot
    simp at hlength
    omega
  | case3 d back hd ih =>
    cases x with
    | nil =>
      obtain rfl : (d :: back).reverse = root := by
        rw [(List.cons.inj h).2, List.reverse_reverse]
      exact List.mem_cons_self
    | cons e x =>
      apply List.mem_cons_of_mem
      exact ih (fun y hy => hpoint (e :: y) (congrArg _ hy)) (List.cons.inj h).2
  | case4 d back hd ih =>
    rcases x with _ | ⟨e, _ | ⟨e', x⟩⟩
    · apply absurd hknown
      rwa [← List.reverse_reverse root, ← (List.cons.inj h).2]
    · exact absurd (congrArg (· :: []) (List.cons.inj h).1.symm) (hpoint [])
    · exact ih (fun y hy => hpoint (e :: e' :: y) (congrArg (e :: e' :: ·) hy))
        (List.cons.inj (List.cons.inj h).2).2
  | case5 c d back hc ih =>
    cases x with
    | nil => exact absurd (List.cons.inj h).1 hc
    | cons e x => exact ih (fun y hy => hpoint (e :: y) (congrArg _ hy)) (List.cons.inj h).2

end Logger

theorem isBelowRoot_iff {name : Text} :
    isBelowRoot name = true ↔ name = rootLogger ∨ rootLogger ++ ['.'] <+: name := by
  unfold isBelowRoot
  rw [Bool.or_eq_true, beq_iff_eq, List.isPrefixOf_iff_prefix]

namespace Loggers

variable {s : Loggers} {name : Text}

/-- Only what has the root's name or goes on from it with a point is below the root. -/
theorem isBelowRoot_of_mem_lineage (h : rootLogger ∈ s.lineage name) : isBelowRoot name = true := by
  rw [isBelowRoot_iff]
  rcases List.mem_cons.mp h with h | h
  · exact .inl h.symm
  · have := (Logger.of_mem_namesAbove h).2
    rw [List.reverse_reverse] at this
    exact .inr this

/-- The name does not go on from the root's with two points. -/
def PointsApart (name : Text) : Prop :=
  ¬ rootLogger ++ ['.', '.'] <+: name

theorem isBelowRoot_of_points (h : rootLogger ++ ['.', '.'] <+: name) :
    isBelowRoot name = true := by
  rw [isBelowRoot_iff]
  exact .inr ((List.prefix_append (rootLogger ++ ['.']) ['.']).trans h)

theorem mem_lineage_of_isBelowRoot (hknown : (s.known rootLogger).isSome = true)
    (hpoints : PointsApart name) (h : isBelowRoot name = true) : rootLogger ∈ s.lineage name := by
  rcases isBelowRoot_iff.mp h with rfl | ⟨rest, rfl⟩
  · exact List.mem_cons_self
  · have hback : (rootLogger ++ ['.'] ++ rest).reverse =
        rest.reverse ++ '.' :: rootLogger.reverse := by simp
    apply List.mem_cons_of_mem
    apply Logger.mem_namesAbove (by decide) hknown _ hback
    intro y hy
    apply hpoints
    rw [List.reverse_eq_iff.mp hy]
    exact ⟨y.reverse, by simp⟩

end Loggers
end MigrationScript
