import MigrationScript.Dialect.Basic
import MigrationScript.Proofs.Lines
import MigrationScript.Proofs.UpperCase

/-!
Texts with their ASCII letters in upper case. Whatever looks at characters without telling the two
forms of a letter apart gives the same for such a text, or the same in capitals.
-/
namespace MigrationScript

/-- The text with its ASCII letters in upper case. -/
def Text.capitals (t : Text) : Text :=
  t.map Char.toUpper

/-- What is the same for both forms of each letter is the same for a character in upper case. -/
theorem apply_toUpper {α : Type} (f : Char → α)
    (h : ∀ n < 0x80, f (Char.ofNat n).toUpper = f (Char.ofNat n)) (c : Char) :
    f c.toUpper = f c := by
  by_cases hc : c.toNat < 0x80
  · have hc := h c.toNat hc
    rwa [Char.ofNat_toNat] at hc
  · have hlower : ¬ (c.val ≥ 'a'.val ∧ c.val ≤ 'z'.val) := by
      rintro ⟨-, hle⟩
      have hle := UInt32.le_iff_toNat_le.mp hle
      have hn : c.toNat = c.val.toNat := rfl
      simp at hle
      omega
    have hupper : c.toUpper = c := dif_neg hlower
    rw [hupper]

theorem isBlank_toUpper (c : Char) : isBlank c.toUpper = isBlank c :=
  apply_toUpper isBlank (by decide) c

theorem isDecimalDigit_toUpper (c : Char) : isDecimalDigit c.toUpper = isDecimalDigit c :=
  apply_toUpper isDecimalDigit (by decide) c

theorem upperChar_toUpper (c : Char) : upperChar c.toUpper = upperChar c :=
  apply_toUpper upperChar (by decide) c

/-- A character that is no letter is told from others in both forms alike. -/
theorem beq_toUpper {m : Char} (hm : isUncased m = true) (c : Char) :
    (m == c.toUpper) = (m == c) := by
  rw [Bool.eq_iff_iff, beq_iff_eq, beq_iff_eq]
  constructor
  · rintro rfl
    exact (eq_of_toUpper hm).symm
  · rintro rfl
    exact (toUpper_of_uncased hm).symm

theorem toUpper_beq {m : Char} (hm : isUncased m = true) (c : Char) :
    (c.toUpper == m) = (c == m) := by
  rw [BEq.comm, beq_toUpper hm, BEq.comm]

/-- A text of characters that are no letters. -/
def Text.Uncased (t : Text) : Prop :=
  ∀ c ∈ t, isUncased c = true

instance (t : Text) : Decidable t.Uncased :=
  inferInstanceAs (Decidable (∀ c ∈ t, isUncased c = true))

namespace Text

variable {m t : Text} {cut p : Char → Bool}

@[simp] theorem capitals_nil : capitals [] = [] := rfl

@[simp] theorem capitals_cons (c : Char) (t : Text) :
    capitals (c :: t) = c.toUpper :: capitals t := rfl

@[simp] theorem capitals_append (s t : Text) : capitals (s ++ t) = capitals s ++ capitals t :=
  List.map_append

@[simp] theorem length_capitals (t : Text) : (capitals t).length = t.length :=
  List.length_map _

theorem capitals_take (n : Nat) (t : Text) : capitals (t.take n) = (capitals t).take n :=
  List.map_take

theorem capitals_drop (n : Nat) (t : Text) : capitals (t.drop n) = (capitals t).drop n :=
  List.map_drop

theorem capitals_of_uncased (h : m.Uncased) : capitals m = m := by
  induction m with
  | nil => rfl
  | cons c m ih =>
    obtain ⟨hc, hm⟩ := List.forall_mem_cons.mp h
    rw [capitals_cons, toUpper_of_uncased hc, ih hm]

@[simp] theorem upper_capitals (t : Text) : upper (capitals t) = upper t := by
  simp [upper, capitals, List.flatMap_map, upperChar_toUpper]

theorem isPrefixOf_capitals (hm : m.Uncased) (t : Text) :
    m.isPrefixOf (capitals t) = m.isPrefixOf t := by
  induction m generalizing t with
  | nil => simp
  | cons x m ih =>
    obtain ⟨hx, hm⟩ := List.forall_mem_cons.mp hm
    cases t with
    | nil => rfl
    | cons c t => rw [capitals_cons, List.isPrefixOf, List.isPrefixOf, beq_toUpper hx, ih hm]

theorem isSuffixOf_capitals (hm : m.Uncased) (t : Text) :
    m.isSuffixOf (capitals t) = m.isSuffixOf t := by
  have hrev : (capitals t).reverse = capitals t.reverse := List.map_reverse.symm
  rw [List.isSuffixOf, hrev, isPrefixOf_capitals]
  · rfl
  · exact fun c hc => hm c (List.mem_reverse.mp hc)

theorem after?_capitals (hm : m.Uncased) (t : Text) :
    after? m (capitals t) = (after? m t).map capitals := by
  induction m generalizing t with
  | nil => rfl
  | cons x m ih =>
    obtain ⟨hx, hm⟩ := List.forall_mem_cons.mp hm
    cases t with
    | nil => rfl
    | cons c t =>
      have hbeq := beq_toUpper hx c
      rw [Bool.eq_iff_iff, beq_iff_eq, beq_iff_eq] at hbeq
      rw [capitals_cons, after?, after?]
      by_cases h : x = c
      · rw [if_pos h, if_pos (hbeq.mpr h), ih hm]
      · rw [if_neg h, if_neg (mt hbeq.mp h)]
        rfl

theorem find?_capitals (hm : m.Uncased) (t : Text) : find? m (capitals t) = find? m t := by
  induction t with
  | nil => rfl
  | cons c t ih =>
    rw [capitals_cons, find?, find?, ← capitals_cons, isPrefixOf_capitals hm, ih]

theorem trimEnd_capitals (t : Text) : trimEnd (capitals t) = capitals (trimEnd t) :=
  trimEnd_map isBlank_toUpper t

theorem trim_capitals (t : Text) : trim (capitals t) = capitals (trim t) :=
  trim_map isBlank_toUpper t

theorem pieces_capitals (hcut : ∀ c : Char, cut c.toUpper = cut c) (t : Text) :
    pieces cut (capitals t) = (pieces cut t).map capitals := by
  induction t with
  | nil => rfl
  | cons c t ih =>
    rw [capitals_cons, pieces, pieces, hcut, ih]
    split
    · rfl
    · cases pieces cut t <;> rfl

theorem words_capitals (t : Text) : words (capitals t) = (words t).map capitals := by
  rw [words, words, runs, runs, pieces_capitals isBlank_toUpper, List.filter_map]
  congr 2
  funext r
  cases r <;> rfl

theorem joinLines_capitals (lines : List Text) :
    joinLines (lines.map capitals) = capitals (joinLines lines) := by
  induction lines with
  | nil => rfl
  | cons line lines ih =>
    by_cases h : lines = []
    · subst h
      simp
    · rw [List.map_cons, joinLines_cons (by simpa using h), joinLines_cons h, ih, capitals_append,
        capitals_cons]
      rfl

end Text
end MigrationScript
