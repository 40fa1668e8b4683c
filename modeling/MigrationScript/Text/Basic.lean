/-!
Texts as lists of code points: cutting, joining, searching and ordering them.
-/
namespace MigrationScript

/-- A text is the list of its code points. -/
abbrev Text := List Char

namespace Text

/-- What holds of all characters of a text is decided by looking at those only. -/
instance (priority := high) decidableForallMem (t : Text) (p : Char → Prop) [DecidablePred p] :
    Decidable (∀ c ∈ t, p c) :=
  List.decidableBAll p t

/-- The text cut at every character that `cut` holds of; the cuts themselves are dropped. -/
def pieces (cut : Char → Bool) : Text → List Text
  | [] => [[]]
  | c :: t => if cut c then [] :: pieces cut t else (pieces cut t).modifyHead (c :: ·)

/-- The longest runs of characters that are no cuts. -/
def runs (cut : Char → Bool) (t : Text) : List Text :=
  (pieces cut t).filter fun r => !r.isEmpty

/-- The text without the longest end whose characters all have `p`. -/
def dropEnd (p : Char → Bool) : Text → Text
  | [] => []
  | c :: t =>
    match dropEnd p t with
    | [] => if p c then [] else [c]
    | d :: r => c :: d :: r

/-- Lines written one below the other. -/
def joinLines (lines : List Text) : Text :=
  List.intercalate ['\n'] lines

/-- Items written side by side with a comma and a blank between them. -/
def joinList (items : List Text) : Text :=
  List.intercalate ", ".toList items

/-- What follows `mark` in a text that starts with it. -/
def after? : Text → Text → Option Text
  | [], t => some t
  | _ :: _, [] => none
  | m :: ms, c :: t => if m = c then after? ms t else none

/-- The first place where `mark` occurs. -/
def find? (mark : Text) : Text → Option Nat
  | [] => if mark.isEmpty then some 0 else none
  | c :: t => if mark.isPrefixOf (c :: t) then some 0 else (find? mark t).map (· + 1)

/-- The order of texts by code points; a text comes before its extensions. -/
def le : Text → Text → Bool
  | [], _ => true
  | _ :: _, [] => false
  | a :: s, b :: t => decide (a.toNat < b.toNat) || (a == b && le s t)

/-- Every text once, in order. -/
def sortDistinct (ts : List Text) : List Text :=
  ts.eraseDups.mergeSort le

/-- Decimal digits without leading zeros. -/
def ofNat (n : Nat) : Text :=
  Nat.toDigits 10 n

def ofInt : Int → Text
  | .ofNat n => ofNat n
  | .negSucc n => '-' :: ofNat (n + 1)

/-- The last `width` hexadecimal digits of a number, in lower case. -/
def hex (width n : Nat) : Text :=
  match width with
  | 0 => []
  | w + 1 => hex w (n / 16) ++ [Nat.digitChar (n % 16)]

theorem after?_append (m t : Text) : after? m (m ++ t) = some t := by
  induction m with
  | nil => rfl
  | cons c m ih => simp [after?, ih]

theorem eq_append_of_after? {m t r : Text} (h : after? m t = some r) : t = m ++ r := by
  induction m generalizing t with
  | nil => simpa [after?] using h
  | cons c m ih =>
    cases t with
    | nil => simp [after?] at h
    | cons d t =>
      by_cases e : c = d
      · simp only [after?, e, if_true] at h
        rw [ih h, e, List.cons_append]
      · simp [after?, e] at h

/-- A place that is found is one where the mark stands. -/
theorem drop_of_find? {m t : Text} {n : Nat} (h : find? m t = some n) :
    ∃ r, t.drop n = m ++ r := by
  induction t generalizing n with
  | nil =>
    cases m with
    | nil => exact ⟨[], by simp⟩
    | cons c m => simp [find?] at h
  | cons c t ih =>
    by_cases hm : m.isPrefixOf (c :: t) = true
    · obtain ⟨r, hr⟩ := List.isPrefixOf_iff_prefix.mp hm
      simp only [find?, hm, if_true, Option.some.injEq] at h
      exact ⟨r, by rw [← h, List.drop_zero, hr]⟩
    · simp only [find?, if_neg hm, Option.map_eq_some_iff] at h
      obtain ⟨k, hk, rfl⟩ := h
      exact ih hk

theorem dropEnd_cons (p : Char → Bool) (c : Char) (t : Text) :
    dropEnd p (c :: t) = if p c = true ∧ dropEnd p t = [] then [] else c :: dropEnd p t := by
  rw [dropEnd]
  cases dropEnd p t <;> simp

theorem dropEnd_eq_nil_iff (p : Char → Bool) (t : Text) :
    dropEnd p t = [] ↔ ∀ c ∈ t, p c = true := by
  induction t with
  | nil => simp [dropEnd]
  | cons c t ih =>
    by_cases h : p c = true ∧ dropEnd p t = []
    · simp [dropEnd_cons, h, ← ih]
    · rw [dropEnd_cons, if_neg h]
      simpa [← ih] using h

/-- What is dropped at the end consists of characters that have the property. -/
theorem dropEnd_append (p : Char → Bool) (t : Text) :
    ∃ w, t = dropEnd p t ++ w ∧ ∀ c ∈ w, p c = true := by
  induction t with
  | nil => exact ⟨[], rfl, by simp⟩
  | cons c t ih =>
    obtain ⟨w, hw, hb⟩ := ih
    by_cases h : p c = true ∧ dropEnd p t = []
    · refine ⟨c :: t, by simp [dropEnd_cons, h], ?_⟩
      intro d hd
      rcases List.mem_cons.mp hd with rfl | hd
      · exact h.1
      · exact (dropEnd_eq_nil_iff p t).mp h.2 d hd
    · exact ⟨w, by rw [dropEnd_cons, if_neg h, List.cons_append, ← hw], hb⟩

theorem pieces_ne_nil (cut : Char → Bool) (t : Text) : pieces cut t ≠ [] := by
  induction t with
  | nil => simp [pieces]
  | cons c t ih =>
    by_cases h : cut c <;> simp [pieces, h]
    cases e : pieces cut t <;> simp_all

end Text

/-- A text of at least one character, which opens or closes something. -/
structure Mark where
  first : Char
  more : Text
  deriving DecidableEq, Repr

namespace Mark

def text (m : Mark) : Text :=
  m.first :: m.more

/-- No mark is empty. -/
def ofText? : Text → Option Mark
  | [] => none
  | c :: t => some ⟨c, t⟩

end Mark
end MigrationScript
