import MigrationScript.Proofs.WrittenLines

/-!
A text handed over in several ways: as it is, and as a stream of each kind. Main statement: the
same lines are read in all of them, but for a stream whose lines end at line feeds only; there they
are the same exactly if no carriage return stands by itself inside the text.
-/
namespace MigrationScript

namespace Text

variable {line t : Text} {c : Char} {e : Terminator}

/-- Every carriage return has a line feed behind it or ends the text. -/
def Paired (t : Text) : Prop :=
  ∀ rest, '\r' :: rest <:+ t → rest = [] ∨ rest.head? = some '\n'

theorem paired_nil : Paired [] := by
  intro rest h
  have := List.suffix_nil.mp h
  contradiction

theorem paired_cons :
    Paired (c :: t) ↔ (c = '\r' → t = [] ∨ t.head? = some '\n') ∧ Paired t := by
  constructor
  · intro h
    refine ⟨?_, fun rest hrest => h rest (hrest.trans (List.suffix_cons c t))⟩
    rintro rfl
    exact h t (List.suffix_refl _)
  · rintro ⟨hc, ht⟩ rest hrest
    rcases List.suffix_cons_iff.mp hrest with heq | hrest
    · obtain ⟨rfl, rfl⟩ := List.cons.inj heq
      exact hc rfl
    · exact ht rest hrest

theorem paired_append (h : Unbroken line) : Paired (line ++ t) ↔ Paired t := by
  induction line with
  | nil => exact Iff.rfl
  | cons c line ih =>
    obtain ⟨hr, -, hline⟩ := h.of_cons
    rw [List.cons_append, paired_cons, ih hline]
    exact and_iff_right fun hc => absurd hc hr

/-- A terminator that is no part of a longer one keeps the pairs, unless it is a carriage return in
front of more text. -/
theorem paired_terminator (he : e = .carriage → t.head? ≠ some '\n') :
    Paired (e.text ++ t) ↔ (e = .carriage → t = []) ∧ Paired t := by
  cases e with
  | feed =>
    rw [Terminator.text, List.singleton_append, paired_cons]
    simp
  | both =>
    rw [Terminator.text, List.cons_append, List.singleton_append, paired_cons, paired_cons]
    simp
  | carriage =>
    have hne := he rfl
    rw [Terminator.text, List.singleton_append, paired_cons]
    simp [hne]

/-- A text is one line without end, or its first line ends with a terminator that is no part of a
longer one. -/
theorem unbroken_or_ended (t : Text) : Unbroken t ∨ ∃ (line : Text) (e : Terminator) (rest : Text),
    Unbroken line ∧ (e = .carriage → rest.head? ≠ some '\n') ∧ t = line ++ (e.text ++ rest) := by
  have hnil : Unbroken [] := by decide
  induction t with
  | nil => exact .inl hnil
  | cons c t ih =>
    by_cases hn : c = '\n'
    · subst hn
      exact .inr ⟨[], .feed, t, hnil, by simp, rfl⟩
    by_cases hr : c = '\r'
    · subst hr
      right
      by_cases hhead : t.head? = some '\n'
      · obtain ⟨rest, rfl⟩ := List.head?_eq_some_iff.mp hhead
        exact ⟨[], .both, rest, hnil, by simp, rfl⟩
      · exact ⟨[], .carriage, t, hnil, fun _ => hhead, rfl⟩
    have hcons {u : Text} (hu : Unbroken u) : Unbroken (c :: u) :=
      ⟨List.not_mem_cons_of_ne_of_not_mem (Ne.symm hr) hu.1,
        List.not_mem_cons_of_ne_of_not_mem (Ne.symm hn) hu.2⟩
    rcases ih with ht | ⟨line, e, rest, hline, he, rfl⟩
    · exact .inl (hcons ht)
    · exact .inr ⟨c :: line, e, rest, hcons hline, he, rfl⟩

/-- What holds of a line without end, and of a line with its terminator in front of a text of which
it holds, holds of every text. -/
theorem line_induction {motive : Text → Prop} (last : ∀ line, Unbroken line → motive line)
    (ended : ∀ (line : Text) (e : Terminator) (t : Text), Unbroken line →
      (e = .carriage → t.head? ≠ some '\n') → motive t → motive (line ++ (e.text ++ t)))
    (t : Text) : motive t := by
  rcases unbroken_or_ended t with ht | ⟨line, e, rest, hline, he, heq⟩
  · exact last t ht
  · have hshorter : rest.length < t.length := by
      rw [heq, List.length_append, List.length_append]
      cases e <;> simp only [Terminator.text, List.length_cons] <;> omega
    rw [heq]
    exact ended line e rest hline he (line_induction last ended rest)
termination_by t.length

theorem linesAtAny_of_unbroken (h : Unbroken line) (hne : line ≠ []) :
    linesAtAny line = [line] := by
  induction line with
  | nil => contradiction
  | cons c line ih =>
    obtain ⟨hr, hn, hline⟩ := h.of_cons
    rw [linesAtAny, if_neg (by simp [hr, hn])]
    · by_cases hl : line = []
      · rw [hl]
        rfl
      · rw [ih hline hl]
        rfl
    · rintro _ rfl
      contradiction

theorem linesAtAny_append (h : Unbroken line) (he : e = .carriage → t.head? ≠ some '\n') :
    linesAtAny (line ++ (e.text ++ t)) = (line ++ e.text) :: linesAtAny t := by
  induction line with
  | nil =>
    cases e with
    | feed => rw [List.nil_append, Terminator.text, List.singleton_append, linesAtAny] <;> simp
    | both => rfl
    | carriage =>
      have hne := he rfl
      rw [List.nil_append, Terminator.text, List.singleton_append, linesAtAny]
      · simp
      · rintro u - rfl
        exact hne rfl
  | cons c line ih =>
    obtain ⟨hr, hn, hline⟩ := h.of_cons
    rw [List.cons_append, linesAtAny, if_neg (by simp [hr, hn]), ih hline]
    · rfl
    · rintro _ rfl
      contradiction

/-- Cutting at every terminator gives the lines of the text with its terminators unified. -/
theorem map_linesAtAny (t : Text) : (linesAtAny t).map trimLineEnd = readLines t := by
  induction t using line_induction with
  | last line h =>
    rw [readLines_of_unbroken h]
    split
    next hl =>
      subst hl
      rfl
    next hl => rw [linesAtAny_of_unbroken h hl, List.map_singleton, trimLineEnd_of_unbroken h]
  | ended line e t h he ih =>
    rw [linesAtAny_append h he, readLines_append h he, List.map_cons, trimLineEnd_terminator h, ih]

/-- A line feed ends the line in front of it, with a carriage return or without. -/
theorem linesAtFeed_terminator (h : Unbroken line) (he : e ≠ .carriage) (t : Text) :
    linesAtFeed (line ++ (e.text ++ t)) = (line ++ e.text) :: linesAtFeed t := by
  cases e with
  | feed => exact linesAtFeed_append h.2 t
  | carriage => contradiction
  | both =>
    have hline : '\n' ∉ line ++ ['\r'] := by simp [h.2]
    have happ := linesAtFeed_append hline t
    simpa [Terminator.text] using happ

theorem linesAtFeed_ne_nil (h : t ≠ []) : linesAtFeed t ≠ [] := by
  obtain ⟨c, t, rfl⟩ := List.exists_cons_of_ne_nil h
  unfold linesAtFeed
  split
  · exact List.cons_ne_nil _ _
  · cases linesAtFeed t <;> exact List.cons_ne_nil _ _

/-- In a line without end there is nothing that could end it. -/
theorem map_linesAtFeed_of_unbroken (h : Unbroken line) :
    (linesAtFeed line).map trimLineEnd = readLines line := by
  rw [readLines_of_unbroken h]
  split
  next hl =>
    subst hl
    rfl
  next hl => rw [linesAtFeed_of_unbroken h.2 hl, List.map_singleton, trimLineEnd_of_unbroken h]

/-- What is put in front of a text without a line feed lengthens its first line. -/
theorem length_linesAtFeed_append (h : '\n' ∉ line) (ht : t ≠ []) :
    (linesAtFeed (line ++ t)).length = (linesAtFeed t).length := by
  induction line with
  | nil => rfl
  | cons c line ih =>
    obtain ⟨hc, hline⟩ := List.ne_and_not_mem_of_not_mem_cons h
    rw [List.cons_append, linesAtFeed, if_neg (Ne.symm hc), ← ih hline]
    have hne := linesAtFeed_ne_nil (List.append_ne_nil_of_right_ne_nil line ht)
    obtain ⟨first, more, heq⟩ := List.exists_cons_of_ne_nil hne
    rw [heq]
    rfl

/-- A carriage return at the end of the text is trimmed away. -/
theorem linesAtFeed_carriage (h : Unbroken line) :
    (linesAtFeed (line ++ Terminator.carriage.text)).map trimLineEnd = [line] := by
  have hline : '\n' ∉ line ++ Terminator.carriage.text := by simp [Terminator.text, h.2]
  rw [linesAtFeed_of_unbroken hline (by simp [Terminator.text]), List.map_singleton,
    trimLineEnd_terminator h]

/-- Line feeds alone end no more lines than all terminators do. -/
theorem length_linesAtFeed_le (t : Text) : (linesAtFeed t).length ≤ (readLines t).length := by
  induction t using line_induction with
  | last line h =>
    rw [← map_linesAtFeed_of_unbroken h, List.length_map]
  | ended line e t h he ih =>
    rw [readLines_append h he, List.length_cons]
    by_cases hcarriage : e = .carriage
    · subst hcarriage
      have hline : '\n' ∉ line ++ Terminator.carriage.text := by simp [Terminator.text, h.2]
      by_cases ht : t = []
      · subst ht
        have hone := congrArg List.length (linesAtFeed_carriage h)
        rw [List.length_map] at hone
        rw [List.append_nil, hone]
        simp
      · rw [← List.append_assoc, length_linesAtFeed_append hline ht]
        omega
    · rw [linesAtFeed_terminator h hcarriage, List.length_cons]
      omega

/-- Line feeds alone give the same lines exactly if every carriage return has its line feed or
stands at the end. -/
theorem map_linesAtFeed_iff (t : Text) :
    (linesAtFeed t).map trimLineEnd = readLines t ↔ Paired t := by
  induction t using line_induction with
  | last line h =>
    have hpaired : Paired line := by
      rw [← List.append_nil line, paired_append h]
      exact paired_nil
    exact iff_of_true (map_linesAtFeed_of_unbroken h) hpaired
  | ended line e t h he ih =>
    rw [readLines_append h he, paired_append h, paired_terminator he]
    by_cases hcarriage : e = .carriage
    · subst hcarriage
      by_cases ht : t = []
      · subst ht
        rw [List.append_nil]
        exact iff_of_true (linesAtFeed_carriage h) ⟨fun _ => rfl, paired_nil⟩
      · refine iff_of_false (fun heq => ?_) fun hpaired => ht (hpaired.1 rfl)
        -- The line that ends at the carriage return is missing among the others.
        have hline : '\n' ∉ line ++ Terminator.carriage.text := by simp [Terminator.text, h.2]
        have hlength := congrArg List.length heq
        have hle := length_linesAtFeed_le t
        rw [List.length_map, ← List.append_assoc, length_linesAtFeed_append hline ht,
          List.length_cons] at hlength
        omega
    · rw [linesAtFeed_terminator h hcarriage, List.map_cons, trimLineEnd_terminator h,
        List.cons_inj_right, ih]
      exact (and_iff_right fun hc => absurd hc hcarriage).symm

end Text

namespace Source

/-- A text is read to the same lines as it stands and from a stream that knows all terminators,
whether it unifies them or not. A stream that knows line feeds only gives these lines exactly if
every carriage return has a line feed behind it or ends the text. -/
theorem reads_alike (t : Text) :
    (text t).read = .ok (Text.readLines t) ∧
    (stream t .unified 0 false).read = .ok (Text.readLines t) ∧
    (stream t .any 0 false).read = .ok (Text.readLines t) ∧
    ((stream t .feed 0 false).read = .ok (Text.readLines t) ↔ t.Paired) := by
  refine ⟨rfl, rfl, ?_, ?_⟩
  · show Except.ok ((Text.linesAtAny t).map Text.trimLineEnd) = _
    rw [Text.map_linesAtAny]
  · show Except.ok ((Text.linesAtFeed t).map Text.trimLineEnd) = _ ↔ _
    rw [Except.ok.injEq]
    exact Text.map_linesAtFeed_iff t

end Source
end MigrationScript
