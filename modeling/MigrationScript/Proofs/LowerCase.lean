import MigrationScript.Proofs.UpperCase
import MigrationScript.Text.Case

/-!
Lower-case forms are final: a text in lower case is the lower case of itself.
-/
namespace MigrationScript

private theorem lowerChar_ascii : ∀ n < 0x80,
    lowerChar (Char.ofNat n).toLower = [(Char.ofNat n).toLower] := by
  decide +kernel

/-- The forms that one run gives and the characters of another are told apart by their places, or
by standing at odd distances. -/
private def CaseRun.isApart (r q : CaseRun) : Bool :=
  Nat.blt (r.target + (r.last - r.first)) q.first || Nat.blt q.last r.target ||
    (q.step == 2 && (r.step == 2 || r.first == r.last) && (r.target + q.first) % 2 == 1)

private theorem lower_apart :
    (CaseRun.lower.all fun r => CaseRun.lower.all r.isApart) = true := by
  decide +kernel

private theorem targets_not_long : ∀ r ∈ CaseRun.lower, ∀ e ∈ CaseRun.lowerLong,
    r.target + (r.last - r.first) < e.1 ∨ e.1 < r.target := by
  decide +kernel

/-- One run leads to an ASCII letter, from the sign of a unit. -/
private theorem targets_ascii : ∀ r ∈ CaseRun.lower,
    0x80 ≤ r.target ∨ (r.first = r.last ∧ r.target = 'k'.toNat) := by
  decide +kernel

private theorem lowerChar_long : ∀ e ∈ CaseRun.lowerLong, ∀ n ∈ e.2,
    lowerChar (Char.ofNat n) = [Char.ofNat n] := by
  decide +kernel

/-- The form that a run gives is in no run. -/
private theorem form?_of_form? {r q : CaseRun} {c n : Nat} (hr : r ∈ CaseRun.lower)
    (hq : q ∈ CaseRun.lower) (h : r.form? c = some n) : q.form? n = none := by
  have hapart := List.all_eq_true.mp (List.all_eq_true.mp lower_apart r hr) q hq
  simp only [CaseRun.isApart, Bool.or_eq_true, Bool.and_eq_true, beq_iff_eq, Nat.blt_eq] at hapart
  unfold CaseRun.form? at h ⊢
  split at h
  next hc =>
    obtain ⟨hfirst, hlast, hstep⟩ := hc
    have hn := Option.some.inj h
    rw [if_neg]
    rintro ⟨hqfirst, hqlast, hqstep⟩
    rcases hapart with (hlow | hhigh) | ⟨⟨hq2, hr2⟩, hodd⟩
    · omega
    · omega
    · rw [hq2] at hqstep
      rcases hr2 with hr2 | hr1
      · rw [hr2] at hstep
        omega
      · omega
  next => contradiction

private theorem lowerChar_of_form? {r : CaseRun} {c : Char} {n : Nat} (hr : r ∈ CaseRun.lower)
    (h : r.form? c.toNat = some n) : lowerChar (Char.ofNat n) = [Char.ofNat n] := by
  by_cases hzero : (Char.ofNat n).toNat = 0
  · obtain hnul : Char.ofNat n = '\x00' := Char.toNat_inj.mp hzero
    rw [hnul]
    rfl
  have hn : n = (Char.ofNat n).toNat := eq_of_ofNat rfl (by omega)
  have hbounds : r.target ≤ n ∧ n ≤ r.target + (r.last - r.first) := by
    have hform := h
    unfold CaseRun.form? at hform
    split at hform
    · have := Option.some.inj hform
      omega
    · contradiction
  rcases targets_ascii r hr with hlarge | ⟨hone, hk⟩
  · have hruns : CaseRun.lower.findSome? (fun q => q.form? n) = none :=
      List.findSome?_eq_none_iff.mpr fun q hq => form?_of_form? hr hq h
    have hlong : CaseRun.lowerLong.find? (fun e => e.1 == n) = none := by
      refine List.find?_eq_none.mpr fun e he => ?_
      have := targets_not_long r hr e he
      simp only [beq_iff_eq]
      omega
    rw [lowerChar, ← hn, if_neg (by omega), CaseRun.form, ← hn, hruns, hlong]
  · have hn : n = 'k'.toNat := by omega
    subst hn
    decide

/-- A lower-case form is the form of itself. -/
theorem lowerChar_of_mem {c e : Char} (h : e ∈ lowerChar c) : lowerChar e = [e] := by
  by_cases hc : c.toNat < 0x80
  · rw [lowerChar, if_pos hc] at h
    have := lowerChar_ascii c.toNat hc
    rw [Char.ofNat_toNat] at this
    rwa [List.mem_singleton.mp h]
  rw [lowerChar, if_neg hc, CaseRun.form] at h
  split at h
  next n hn =>
    obtain ⟨r, hr, hform⟩ := List.exists_of_findSome?_eq_some hn
    rw [List.mem_singleton.mp h]
    exact lowerChar_of_form? hr hform
  next hruns =>
    split at h
    next x hx =>
      obtain ⟨n, hn, rfl⟩ := List.mem_map.mp h
      exact lowerChar_long x (List.mem_of_find?_eq_some hx) n hn
    next hlong =>
      rw [List.mem_singleton.mp h, lowerChar, if_neg hc, CaseRun.form, hruns, hlong]

namespace Text

variable {t : Text} {e : Char}

private theorem lowerChar_of_mem_lowerAfter {after : Bool} (h : e ∈ lowerAfter after t) :
    lowerChar e = [e] := by
  induction t generalizing after with
  | nil => contradiction
  | cons c t ih =>
    rcases List.mem_append.mp h with h | h
    · split at h
      · rw [List.mem_singleton.mp h]
        decide
      · exact lowerChar_of_mem h
    · exact ih h

/-- Every character of a text in lower case is its own lower-case form. -/
theorem lowerChar_of_mem_lower (h : e ∈ lower t) : lowerChar e = [e] :=
  lowerChar_of_mem_lowerAfter h

private theorem lowerAfter_of_lowered {after : Bool} (h : ∀ e ∈ t, lowerChar e = [e]) :
    lowerAfter after t = t := by
  induction t generalizing after with
  | nil => rfl
  | cons c t ih =>
    have hc : lowerChar c = [c] := h c List.mem_cons_self
    -- the sigma, which has two forms, is no form itself
    have hsigma : c ≠ 'Σ' := by
      rintro rfl
      revert hc
      decide
    rw [lowerAfter, ih fun e he => h e (List.mem_cons_of_mem c he)]
    simp [hsigma, hc]

theorem lower_of_lowered (h : ∀ e ∈ t, lowerChar e = [e]) : lower t = t :=
  lowerAfter_of_lowered h

end Text
end MigrationScript
