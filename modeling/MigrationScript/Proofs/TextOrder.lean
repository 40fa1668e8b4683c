import MigrationScript.Text.Basic

/-!
Lists without repetitions, and texts in order: the order of dictionaries, by code points. A list of
texts that is put in order holds each of them once.
-/
namespace MigrationScript

theorem nodup_eraseDups {α : Type} [BEq α] [LawfulBEq α] (l : List α) : l.eraseDups.Nodup := by
  cases l with
  | nil => exact List.nodup_nil
  | cons a l =>
    rw [List.eraseDups_cons, List.nodup_cons, List.mem_eraseDups]
    constructor
    · simp
    · exact nodup_eraseDups (l.filter fun b => !b == a)
termination_by l.length
decreasing_by exact Nat.lt_succ_of_le (List.length_filter_le _ _)

namespace Text

/-- A text stands in front of another. -/
def Before (s t : Text) : Prop :=
  List.Lex (fun a b : Char => a.toNat < b.toNat) s t

variable {s t u : Text} {a b : Char}

theorem le_cons : le (a :: s) (b :: t) = true ↔ a.toNat < b.toNat ∨ a = b ∧ le s t = true := by
  simp [le]

theorem le_trans (hst : le s t = true) (htu : le t u = true) : le s u = true := by
  induction s generalizing t u with
  | nil => rfl
  | cons a s ih =>
    cases t with
    | nil => contradiction
    | cons b t =>
      cases u with
      | nil => contradiction
      | cons c u =>
        rw [le_cons] at hst htu ⊢
        rcases hst with hab | ⟨rfl, hst⟩
        · rcases htu with hbc | ⟨rfl, -⟩
          · exact .inl (by omega)
          · exact .inl hab
        · rcases htu with hac | ⟨rfl, htu⟩
          · exact .inl hac
          · exact .inr ⟨rfl, ih hst htu⟩

theorem le_total (s t : Text) : le s t = true ∨ le t s = true := by
  induction s generalizing t with
  | nil => exact .inl rfl
  | cons a s ih =>
    cases t with
    | nil => exact .inr rfl
    | cons b t =>
      rw [le_cons, le_cons]
      rcases Nat.lt_trichotomy a.toNat b.toNat with hab | hab | hba
      · exact .inl (.inl hab)
      · obtain rfl := Char.toNat_inj.mp hab
        exact (ih t).imp (fun h => .inr ⟨rfl, h⟩) (fun h => .inr ⟨rfl, h⟩)
      · exact .inr (.inl hba)

theorem before_of_le (h : le s t = true) (hne : s ≠ t) : Before s t := by
  induction s generalizing t with
  | nil =>
    cases t with
    | nil => contradiction
    | cons b t => exact .nil
  | cons a s ih =>
    cases t with
    | nil => contradiction
    | cons b t =>
      rcases le_cons.mp h with hab | ⟨rfl, hrest⟩
      · exact .rel hab
      · exact .cons (ih hrest fun hst => hne (congrArg _ hst))

theorem mem_sortDistinct {t : Text} {ts : List Text} : t ∈ sortDistinct ts ↔ t ∈ ts := by
  unfold sortDistinct
  rw [List.mem_mergeSort, List.mem_eraseDups]

/-- Each text stands behind all smaller ones, and none stands there twice. -/
theorem increasing_sortDistinct (ts : List Text) : (sortDistinct ts).Pairwise Before := by
  have hnodup : (sortDistinct ts).Nodup :=
    (List.mergeSort_perm _ _).nodup_iff.mpr (nodup_eraseDups ts)
  have htotal : ∀ a b : Text, (le a b || le b a) = true := by
    intro a b
    rw [Bool.or_eq_true]
    exact le_total a b
  have htrans : ∀ a b c : Text, le a b = true → le b c = true → le a c = true :=
    fun _ _ _ => le_trans
  have hsorted := List.pairwise_mergeSort htrans htotal ts.eraseDups
  exact hsorted.imp₂ (fun _ _ => before_of_le) hnodup

end Text
end MigrationScript
