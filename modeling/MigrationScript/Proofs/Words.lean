import MigrationScript.Proofs.Lines
import MigrationScript.Proofs.Openers
import MigrationScript.Proofs.UpperCase

/-!
The runs of a text between the characters that cut it: words between white space, and runs of word
characters. They are the runs of its lines, one line after the other, and it matters neither how
much white space stands between them nor which.
-/
namespace MigrationScript

/-- The white space beyond ASCII. -/
def wideBlanks : List Nat :=
  [0x85, 0xA0, 0x1680, 0x2028, 0x2029, 0x202F, 0x205F, 0x3000] ++ List.range' 0x2000 11

theorem mem_wideBlanks {c : Char} (h : isBlank c = true) (hc : ¬ c.toNat < 0x80) :
    c.toNat ∈ wideBlanks := by
  simp only [isBlank, Bool.or_eq_true, Bool.and_eq_true, decide_eq_true_eq, beq_iff_eq] at h
  simp only [wideBlanks, List.mem_append, List.mem_range'_1, List.mem_cons, List.not_mem_nil]
  omega

theorem isWordChar_of_isBlank {c : Char} (h : isBlank c = true) : isWordChar c = false := by
  have hwide : ∀ n ∈ wideBlanks,
      (Ranges.lettersAndNumbers.any fun r => decide (r.1 ≤ n) && decide (n ≤ r.2)) = false := by
    decide +kernel
  have hunderscore : (c == '_') = false := by
    rw [beq_eq_false_iff_ne]
    rintro rfl
    revert h
    decide
  rw [isWordChar, hunderscore, Bool.false_or]
  split
  next =>
    rw [← Bool.not_eq_true]
    intro halnum
    rw [isBlank_of_isAlphanum halnum] at h
    contradiction
  next hc => exact hwide c.toNat (mem_wideBlanks h hc)

/-- White space is its own upper-case form. -/
theorem upperChar_of_isBlank {c : Char} (h : isBlank c = true) : upperChar c = [c] := by
  by_cases hc : c.toNat < 0x80
  · apply upperChar_of_uncased
    simp only [isBlank, Bool.or_eq_true, Bool.and_eq_true, decide_eq_true_eq, beq_iff_eq] at h
    simp only [isUncased, Bool.or_eq_true, Bool.and_eq_true, decide_eq_true_eq]
    omega
  · have hwide : ∀ n ∈ wideBlanks,
        CaseRun.form CaseRun.upper CaseRun.upperLong (Char.ofNat n) = [Char.ofNat n] := by
      decide +kernel
    have hform := hwide c.toNat (mem_wideBlanks h hc)
    rw [Char.ofNat_toNat] at hform
    rw [upperChar, if_neg hc, hform]

namespace Text

variable {cut finer : Char → Bool} {c : Char} {s t w : Text}

theorem upper_of_blank (h : ∀ c ∈ w, isBlank c = true) : upper w = w := by
  induction w with
  | nil => rfl
  | cons c w ih =>
    obtain ⟨hc, hw⟩ := List.forall_mem_cons.mp h
    rw [upper, List.flatMap_cons, upperChar_of_isBlank hc]
    exact congrArg (c :: ·) (ih hw)

theorem upper_joinLines (lines : List Text) :
    upper (joinLines lines) = joinLines (lines.map upper) := by
  induction lines with
  | nil => rfl
  | cons line lines ih =>
    by_cases h : lines = []
    · simp [h]
    · have hn : upper ('\n' :: joinLines lines) = '\n' :: upper (joinLines lines) := by
        rw [upper, List.flatMap_cons, upperChar_of_isBlank (by decide)]
        rfl
      rw [joinLines_cons h, upper_append, hn, ih, List.map_cons, joinLines_cons (by simpa using h)]

@[simp] theorem runs_nil : runs cut [] = [] := rfl

/-- A cut takes nothing with it: the pieces before it and those behind it are all pieces. -/
theorem pieces_append_cut (hc : cut c = true) (s t : Text) :
    pieces cut (s ++ c :: t) = pieces cut s ++ pieces cut t := by
  induction s with
  | nil => simp [pieces, hc]
  | cons e s ih =>
    rw [List.cons_append, pieces, pieces, ih]
    split
    · rfl
    · obtain ⟨p, ps, hp⟩ := List.exists_cons_of_ne_nil (pieces_ne_nil cut s)
      simp [hp]

theorem runs_append_cut (hc : cut c = true) (s t : Text) :
    runs cut (s ++ c :: t) = runs cut s ++ runs cut t := by
  rw [runs, pieces_append_cut hc, List.filter_append]
  rfl

theorem runs_cons_cut (hc : cut c = true) (t : Text) : runs cut (c :: t) = runs cut t :=
  runs_append_cut hc [] t

theorem runs_cuts_append (hw : ∀ c ∈ w, cut c = true) (t : Text) :
    runs cut (w ++ t) = runs cut t := by
  induction w with
  | nil => rfl
  | cons c w ih =>
    obtain ⟨hc, hw⟩ := List.forall_mem_cons.mp hw
    rw [List.cons_append, runs_cons_cut hc, ih hw]

theorem runs_append_cuts (hw : ∀ c ∈ w, cut c = true) (t : Text) :
    runs cut (t ++ w) = runs cut t := by
  cases w with
  | nil => rw [List.append_nil]
  | cons c w =>
    obtain ⟨hc, hw⟩ := List.forall_mem_cons.mp hw
    have htail := runs_cuts_append hw []
    rw [runs_append_cut hc, ← List.append_nil w, htail, runs_nil, List.append_nil]

theorem runs_joinLines (hn : cut '\n' = true) (lines : List Text) :
    runs cut (joinLines lines) = lines.flatMap (runs cut) := by
  induction lines with
  | nil => rfl
  | cons line lines ih =>
    by_cases h : lines = []
    · simp [h]
    · rw [joinLines_cons h, runs_append_cut hn, ih, List.flatMap_cons]

/-- Trimming takes no run away, also before a text is put in upper case. -/
theorem runs_upper_trim (hcut : ∀ c, isBlank c = true → cut c = true) (t : Text) :
    runs cut (upper (trim t)) = runs cut (upper t) := by
  have hfront : ∀ c ∈ t.takeWhile isBlank, isBlank c = true :=
    List.all_eq_true.mp List.all_takeWhile
  obtain ⟨w, hw, hblank⟩ := dropEnd_append isBlank (trimStart t)
  have ht : t = t.takeWhile isBlank ++ (trim t ++ w) :=
    List.takeWhile_append_dropWhile.symm.trans (congrArg _ hw)
  calc runs cut (upper (trim t))
    _ = runs cut (upper (trim t) ++ w) :=
      (runs_append_cuts (fun c hc => hcut c (hblank c hc)) _).symm
    _ = runs cut (t.takeWhile isBlank ++ (upper (trim t) ++ w)) :=
      (runs_cuts_append (fun c hc => hcut c (hfront c hc)) _).symm
    _ = runs cut (upper (t.takeWhile isBlank ++ (trim t ++ w))) := by
      rw [upper_append, upper_append, upper_of_blank hfront, upper_of_blank hblank]
    _ = runs cut (upper t) := by rw [← ht]

/-- The runs do not depend on which of the characters that cut stand between them. -/
theorem runs_map {f : Char → Char} (hf : ∀ c, cut (f c) = cut c ∧ (cut c = false → f c = c))
    (t : Text) :
    runs cut (t.map f) = runs cut t := by
  have hpieces : pieces cut (t.map f) = pieces cut t := by
    induction t with
    | nil => rfl
    | cons c t ih =>
      rw [List.map_cons, pieces, pieces, (hf c).1, ih]
      split
      · rfl
      · rw [(hf c).2 (by simp_all)]
  rw [runs, runs, hpieces]

theorem mem_pieces (h : w ∈ pieces cut t) : ∀ c ∈ w, cut c = false := by
  induction t generalizing w with
  | nil => simp_all [pieces]
  | cons e t ih =>
    rw [pieces] at h
    split at h
    next he =>
      rcases List.mem_cons.mp h with rfl | h
      · simp
      · exact ih h
    next he =>
      obtain ⟨p, ps, hp⟩ := List.exists_cons_of_ne_nil (pieces_ne_nil cut t)
      rw [hp] at h ih
      rcases List.mem_cons.mp h with rfl | h
      · exact List.forall_mem_cons.mpr ⟨by simpa using he, ih List.mem_cons_self⟩
      · exact ih (List.mem_cons_of_mem p h)

theorem mem_runs (h : w ∈ runs cut t) : w ≠ [] ∧ ∀ c ∈ w, cut c = false := by
  obtain ⟨hw, hne⟩ := List.mem_filter.mp h
  exact ⟨by simpa using hne, mem_pieces hw⟩

/-- A character that is no cut is in some run. -/
theorem runs_ne_nil (hmem : c ∈ t) (hc : cut c = false) : runs cut t ≠ [] := by
  induction t with
  | nil => contradiction
  | cons e t ih =>
    by_cases he : cut e = true
    · rw [runs_cons_cut he]
      refine ih ((List.mem_cons.mp hmem).resolve_left ?_)
      rintro rfl
      simp [hc] at he
    · obtain ⟨p, ps, hp⟩ := List.exists_cons_of_ne_nil (pieces_ne_nil cut t)
      simp [runs, pieces, he, hp]

/-- Runs between more cuts lie within the runs between some of them. -/
theorem runs_eq_flatMap (hfiner : ∀ c, cut c = true → finer c = true) (t : Text) :
    runs finer t = (runs cut t).flatMap (runs finer) := by
  have hpieces : pieces finer t = (pieces cut t).flatMap (pieces finer) := by
    induction t with
    | nil => rfl
    | cons c t ih =>
      obtain ⟨p, ps, hp⟩ := List.exists_cons_of_ne_nil (pieces_ne_nil cut t)
      rw [hp] at ih
      by_cases hc : cut c = true
      · simp [pieces, hc, hfiner c hc, ih, hp]
      · obtain ⟨q, qs, hq⟩ := List.exists_cons_of_ne_nil (pieces_ne_nil finer p)
        by_cases hf : finer c = true
        · simp [pieces, hc, hf, ih, hp]
        · simp [pieces, hc, hf, ih, hp, hq]
  have hruns (ps : List Text) : (ps.flatMap (pieces finer)).filter (fun r => !r.isEmpty) =
      (ps.filter fun r => !r.isEmpty).flatMap (runs finer) := by
    induction ps with
    | nil => rfl
    | cons p ps ih =>
      rw [List.flatMap_cons, List.filter_append, ih, List.filter_cons]
      split
      next => rfl
      next hp =>
        obtain rfl : p = [] := by simpa using hp
        rfl
  rw [runs, hpieces, hruns]
  rfl

/-- Words written side by side, with one blank between two of them. -/
def joinWords (ws : List Text) : Text :=
  List.intercalate [' '] ws

/-- The text with its white space made plain: none at its ends, and one blank between two words. -/
def spaced (t : Text) : Text :=
  joinWords (words t)

/-- These texts can be told apart as words. -/
def AreWords (ws : List Text) : Prop :=
  ∀ w ∈ ws, w ≠ [] ∧ ∀ c ∈ w, isBlank c = false

theorem areWords_words (t : Text) : AreWords (words t) := fun _ h => mem_runs h

@[simp] theorem joinWords_nil : joinWords [] = [] := rfl

@[simp] theorem joinWords_singleton (w : Text) : joinWords [w] = w := List.intercalate_singleton

theorem joinWords_cons {ws : List Text} (h : ws ≠ []) (w : Text) :
    joinWords (w :: ws) = w ++ ' ' :: joinWords ws := by
  rw [joinWords, List.intercalate_cons_of_ne_nil h, List.append_assoc]
  rfl

theorem joinWords_append {vs ws : List Text} (hv : vs ≠ []) (hw : ws ≠ []) :
    joinWords (vs ++ ws) = joinWords vs ++ ' ' :: joinWords ws := by
  induction vs with
  | nil => contradiction
  | cons v vs ih =>
    by_cases h : vs = []
    · rw [h, List.singleton_append, joinWords_cons hw, joinWords_singleton]
    · rw [List.cons_append, joinWords_cons (List.append_ne_nil_of_left_ne_nil h ws), ih h,
        joinWords_cons h, List.append_assoc, List.cons_append]

/-- Where white space stands among words, it is the blank between two of them. -/
theorem exists_of_joinWords {ws : List Text} (hws : AreWords ws) (hc : isBlank c = true)
    (h : joinWords ws = s ++ c :: t) : ∃ front back, front ≠ [] ∧ back ≠ [] ∧ ws = front ++ back ∧
      s = joinWords front ∧ c = ' ' ∧ t = joinWords back := by
  induction ws generalizing s with
  | nil => simp at h
  | cons w ws ih =>
    obtain ⟨⟨-, hw⟩, hrest⟩ := List.forall_mem_cons.mp hws
    have hcw : c ∉ w := fun hmem => by simp [hw c hmem] at hc
    by_cases hne : ws = []
    · rw [hne, joinWords_singleton] at h
      exact absurd (by simp [h]) hcw
    · rw [joinWords_cons hne] at h
      rcases List.append_eq_append_iff.mp h with ⟨v, rfl, hv⟩ | ⟨v, rfl, hv⟩
      · rcases List.cons_eq_append_iff.mp hv with ⟨rfl, hblank⟩ | ⟨u, rfl, hu⟩
        · obtain ⟨rfl, rfl⟩ := List.cons.inj hblank
          exact ⟨[w], ws, by simp, hne, rfl, by simp, rfl, rfl⟩
        · obtain ⟨front, back, hfront, hback, rfl, rfl, rfl, rfl⟩ := ih hrest hu
          exact ⟨w :: front, back, by simp, hback, rfl, (joinWords_cons hfront w).symm, rfl, rfl⟩
      · rcases List.cons_eq_append_iff.mp hv with ⟨rfl, hblank⟩ | ⟨u, rfl, -⟩
        · obtain ⟨rfl, rfl⟩ := List.cons.inj hblank
          exact ⟨[s], ws, by simp, hne, by simp, by simp, rfl, rfl⟩
        · simp at hcw

/-- Words that are written side by side make up one line. -/
theorem newline_joinWords {ws : List Text} (hws : AreWords ws) : '\n' ∉ joinWords ws := by
  intro hmem
  obtain ⟨s, t, hsplit⟩ := List.append_of_mem hmem
  obtain ⟨_, _, _, _, _, _, hblank, _⟩ := exists_of_joinWords hws (by decide) hsplit
  contradiction

/-- Behind the first word there is nothing or a blank. -/
theorem joinWords_tail (w : Text) (ws : List Text) :
    ∃ tail, StartsBlank tail ∧ joinWords (w :: ws) = w ++ tail := by
  by_cases h : ws = []
  · exact ⟨[], .inl rfl, by simp [h]⟩
  · exact ⟨_, .inr ⟨' ', joinWords ws, by decide, rfl⟩, joinWords_cons h w⟩

theorem startsWithWord_iff {word : Text} :
    startsWithWord word t = true ↔ ∃ rest, t = word ++ rest ∧ endsWord rest = true := by
  rw [startsWithWord, Option.any_eq_true]
  constructor
  · rintro ⟨rest, hrest, hend⟩
    exact ⟨rest, eq_append_of_after? hrest, hend⟩
  · rintro ⟨rest, rfl, hend⟩
    exact ⟨rest, after?_append word rest, hend⟩

theorem endsWord_append_blank {tail : Text} (h : StartsBlank tail) (t : Text) :
    endsWord (t ++ tail) = endsWord t := by
  cases t with
  | cons c t => rfl
  | nil =>
    rcases h with rfl | ⟨c, tail, hc, rfl⟩
    · rfl
    · simp [endsWord, isWordChar_of_isBlank hc]

/-- A word that a text starts with does not reach into white space. -/
theorem startsWithWord_append_blank {word tail : Text} (hword : ∀ c ∈ word, isBlank c = false)
    (h : StartsBlank tail) : startsWithWord word (t ++ tail) = startsWithWord word t := by
  rw [Bool.eq_iff_iff, startsWithWord_iff, startsWithWord_iff]
  constructor
  · rintro ⟨rest, heq, hend⟩
    rcases List.append_eq_append_iff.mp heq with ⟨v, rfl, hv⟩ | ⟨v, rfl, rfl⟩
    · cases v with
      | nil => exact ⟨[], by simp, rfl⟩
      | cons c v =>
        rcases h with rfl | ⟨e, u, he, rfl⟩
        · simp at hv
        · obtain ⟨rfl, -⟩ := List.cons.inj hv
          have := hword e (by simp)
          simp [he] at this
    · exact ⟨v, rfl, by rwa [endsWord_append_blank h] at hend⟩
  · rintro ⟨rest, rfl, hend⟩
    exact ⟨rest ++ tail, List.append_assoc _ _ _, by rwa [endsWord_append_blank h]⟩

end Text
end MigrationScript
