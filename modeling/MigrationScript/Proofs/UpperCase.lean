import MigrationScript.Text.Case

/-!
Upper-case forms against the characters that are no letters: no form is empty, and an ASCII
character that is no letter is the form of itself alone.
-/
namespace MigrationScript

/-- A character that stands before the ASCII letters or between the two cases of them. -/
def isUncased (c : Char) : Bool :=
  c.toNat < 0x41 || (0x5B ≤ c.toNat && c.toNat < 0x61)

private theorem isUncased_iff {c : Char} :
    isUncased c = true ↔ c.toNat < 0x41 ∨ (0x5B ≤ c.toNat ∧ c.toNat < 0x61) := by
  simp [isUncased]

/-- A code point that gives a character other than the first is that character's own. -/
theorem eq_of_ofNat {n : Nat} {e : Char} (h : Char.ofNat n = e) (he : 0 < e.toNat) :
    n = e.toNat := by
  subst h
  by_cases hn : n.isValidChar
  · have hc : Char.ofNat n = Char.ofNatAux n hn := dif_pos hn
    rw [hc]
    rfl
  · have hc : Char.ofNat n = '\x00' := dif_neg hn
    rw [hc] at he
    contradiction

private theorem target_upper : ∀ r ∈ CaseRun.upper,
    (0x41 ≤ r.target ∧ r.target + (r.last - r.first) < 0x5B) ∨ 0x61 ≤ r.target := by
  decide +kernel

private theorem form_upperLong : ∀ e ∈ CaseRun.upperLong,
    e.2 ≠ [] ∧ ∀ n ∈ e.2, (0x41 ≤ n ∧ n < 0x5B) ∨ 0x61 ≤ n := by
  decide +kernel

/-- Letters stay letters. -/
theorem eq_of_toUpper {c : Char} (h : isUncased c.toUpper = true) : c = c.toUpper := by
  rw [isUncased_iff] at h
  unfold Char.toUpper at h ⊢
  split
  next hc =>
    rw [dif_pos hc] at h
    have hle := UInt32.le_iff_toNat_le.mp hc.1
    have hge := UInt32.le_iff_toNat_le.mp hc.2
    have hsum : (c.val + ('A'.val - 'a'.val)).toNat < 0x41 ∨
      (0x5B ≤ (c.val + ('A'.val - 'a'.val)).toNat ∧
        (c.val + ('A'.val - 'a'.val)).toNat < 0x61) := h
    rw [UInt32.toNat_add] at hsum
    simp at hle hge hsum
    omega
  next => rfl

theorem upperChar_ne_nil (c : Char) : upperChar c ≠ [] := by
  unfold upperChar
  split
  · simp
  unfold CaseRun.form
  split
  · simp
  split
  next e he => simp [(form_upperLong e (List.mem_of_find?_eq_some he)).1]
  next => simp

theorem Text.upper_ne_nil {t : Text} (h : t ≠ []) : Text.upper t ≠ [] := by
  intro hu
  obtain ⟨c, t, rfl⟩ := List.exists_cons_of_ne_nil h
  exact upperChar_ne_nil c (List.flatMap_eq_nil_iff.mp hu c List.mem_cons_self)

/-- An ASCII character that is no letter is in the upper-case form of itself only. -/
theorem eq_of_mem_upperChar {c e : Char} (h : e ∈ upperChar c) (hpos : 0 < e.toNat)
    (he : isUncased e = true) : c = e := by
  unfold upperChar at h
  split at h
  next =>
    obtain rfl := List.mem_singleton.mp h
    exact eq_of_toUpper he
  next =>
    rw [isUncased_iff] at he
    unfold CaseRun.form at h
    split at h
    next n hn =>
      obtain ⟨r, hr, hf⟩ := List.exists_of_findSome?_eq_some hn
      have hn := eq_of_ofNat (List.mem_singleton.mp h).symm hpos
      have ht := target_upper r hr
      unfold CaseRun.form? at hf
      split at hf
      · have hf := Option.some.inj hf
        omega
      · contradiction
    split at h
    next x hx =>
      obtain ⟨n, hn, hne⟩ := List.mem_map.mp h
      have hcased := (form_upperLong x (List.mem_of_find?_eq_some hx)).2 n hn
      have := eq_of_ofNat hne hpos
      omega
    next => exact (List.mem_singleton.mp h).symm

theorem toUpper_of_uncased {c : Char} (h : isUncased c = true) : c.toUpper = c := by
  have hcase := isUncased_iff.mp h
  have hlower : ¬ (c.val ≥ 'a'.val ∧ c.val ≤ 'z'.val) := by
    rintro ⟨hge, -⟩
    have hge := UInt32.le_iff_toNat_le.mp hge
    have hn : c.toNat = c.val.toNat := rfl
    simp at hge
    omega
  exact dif_neg hlower

theorem upperChar_of_uncased {c : Char} (h : isUncased c = true) : upperChar c = [c] := by
  have hcase := isUncased_iff.mp h
  rw [upperChar, if_pos (by omega), toUpper_of_uncased h]

namespace Text

variable {t : Text} {e : Char}

theorem mem_upper_iff (hpos : 0 < e.toNat) (he : isUncased e = true) : e ∈ upper t ↔ e ∈ t := by
  constructor
  · intro h
    obtain ⟨c, hc, hmem⟩ := List.mem_flatMap.mp h
    rwa [← eq_of_mem_upperChar hmem hpos he]
  · intro h
    exact List.mem_flatMap.mpr ⟨e, h, by simp [upperChar_of_uncased he]⟩

/-- Only a text of ASCII characters that are no letters is put in upper case as that text. -/
theorem upper_eq_iff {w : Text} (hw : ∀ e ∈ w, 0 < e.toNat ∧ isUncased e = true) :
    upper t = w ↔ t = w := by
  induction w generalizing t with
  | nil =>
    cases t with
    | nil => exact iff_of_true rfl rfl
    | cons c t =>
      have hne := List.cons_ne_nil c t
      exact iff_of_false (upper_ne_nil hne) hne
  | cons e w ih =>
    obtain ⟨⟨hpos, he⟩, hmore⟩ := List.forall_mem_cons.mp hw
    cases t with
    | nil => simp [upper]
    | cons c t =>
      have hsplit : upper (c :: t) = upperChar c ++ upper t := List.flatMap_cons
      rw [hsplit]
      constructor
      · intro h
        obtain ⟨x, r, hx⟩ := List.exists_cons_of_ne_nil (upperChar_ne_nil c)
        rw [hx] at h
        obtain ⟨rfl, htail⟩ := List.cons.inj h
        obtain rfl := eq_of_mem_upperChar (c := c) (hx ▸ List.mem_cons_self) hpos he
        obtain ⟨-, rfl⟩ := List.cons.inj (hx.symm.trans (upperChar_of_uncased he))
        rw [(ih hmore).mp htail]
      · intro h
        obtain ⟨rfl, rfl⟩ := List.cons.inj h
        rw [upperChar_of_uncased he, (ih hmore).mpr rfl]
        rfl

/-- An ASCII character that is no letter keeps its place before the last character. -/
theorem mem_dropLast_upper_iff (hpos : 0 < e.toNat) (he : isUncased e = true) :
    e ∈ (upper t).dropLast ↔ e ∈ t.dropLast := by
  rcases List.eq_nil_or_concat t with rfl | ⟨a, c, rfl⟩
  · rfl
  have hsplit : upper (a ++ [c]) = upper a ++ upperChar c := by simp [upper]
  rw [List.concat_eq_append, hsplit, List.dropLast_append_of_ne_nil (upperChar_ne_nil c),
    List.dropLast_concat, List.mem_append, mem_upper_iff hpos he]
  refine or_iff_left ?_
  intro h
  obtain rfl := eq_of_mem_upperChar (List.dropLast_subset _ h) hpos he
  simp [upperChar_of_uncased he] at h

/-- A text whose upper-case form ends with such a character ends with it. -/
theorem last_of_upper (hpos : 0 < e.toNat) (he : isUncased e = true) (h : [e] <:+ upper t) :
    ∃ a, t = a ++ [e] := by
  rcases List.eq_nil_or_concat t with rfl | ⟨a, c, rfl⟩
  · simp at h
  · rw [List.concat_eq_append] at h ⊢
    rcases List.eq_nil_or_concat (upperChar c) with hc | ⟨z, x, hc⟩
    · exact absurd hc (upperChar_ne_nil c)
    · have hu : upper (a ++ [c]) = upper a ++ z ++ [x] := by simp [upper, hc]
      obtain ⟨r, hr⟩ := h
      rw [hu] at hr
      obtain rfl : e = x := by simpa using List.append_inj_right' hr rfl
      obtain rfl := eq_of_mem_upperChar (c := c) (e := e) (by simp [hc]) hpos he
      exact ⟨a, rfl⟩

end Text
end MigrationScript
