import Mathlib.Data.List.Chain
import MigrationScript.Source

/-!
Lines written into a text, each with a terminator of its own, and read back from it. Main statement:
the lines come back as they were written exactly if no carriage return and line feed of two lines
meet, which then end one line together.
-/
namespace MigrationScript

/-- A way to end a line. -/
inductive Terminator where
  | feed
  | carriage
  | both
  deriving DecidableEq, Repr

def Terminator.text : Terminator → Text
  | feed => ['\n']
  | carriage => ['\r']
  | both => ['\r', '\n']

/-- A line of a text with the terminator that stands behind it. -/
structure WrittenLine where
  line : Text
  terminator : Terminator
  deriving DecidableEq, Repr

namespace Text

/-- The text holds no character that ends a line. -/
def Unbroken (t : Text) : Prop :=
  '\r' ∉ t ∧ '\n' ∉ t

instance (t : Text) : Decidable (Unbroken t) :=
  inferInstanceAs (Decidable (_ ∧ _))

variable {line t : Text} {c : Char}

theorem Unbroken.of_cons (h : Unbroken (c :: t)) : c ≠ '\r' ∧ c ≠ '\n' ∧ Unbroken t := by
  obtain ⟨hr, hn⟩ := h
  obtain ⟨hcr, hr⟩ := List.ne_and_not_mem_of_not_mem_cons hr
  obtain ⟨hcn, hn⟩ := List.ne_and_not_mem_of_not_mem_cons hn
  exact ⟨hcr.symm, hcn.symm, hr, hn⟩

theorem unifyEnds_append (h : Unbroken line) (t : Text) :
    unifyEnds (line ++ t) = line ++ unifyEnds t := by
  induction line with
  | nil => rfl
  | cons c line ih =>
    obtain ⟨hr, -, hline⟩ := h.of_cons
    have hstep : unifyEnds (c :: (line ++ t)) = c :: unifyEnds (line ++ t) := by
      rw [unifyEnds, if_neg hr]
      rintro _ rfl
      contradiction
    rw [List.cons_append, hstep, ih hline, List.cons_append]

/-- A terminator becomes a line feed, but for a carriage return that a line feed follows. -/
theorem unifyEnds_terminator {e : Terminator}
    (h : e = .carriage → t.head? ≠ some '\n') : unifyEnds (e.text ++ t) = '\n' :: unifyEnds t := by
  cases e with
  | feed =>
    rw [Terminator.text, List.singleton_append, unifyEnds]
    · simp
    · simp
  | both => rfl
  | carriage =>
    have hne := h rfl
    rw [Terminator.text, List.singleton_append, unifyEnds]
    · simp
    · rintro u - rfl
      exact hne rfl

theorem linesAtFeed_append (h : '\n' ∉ line) (t : Text) :
    linesAtFeed (line ++ '\n' :: t) = (line ++ ['\n']) :: linesAtFeed t := by
  induction line with
  | nil => simp [linesAtFeed]
  | cons c line ih =>
    obtain ⟨hc, hline⟩ := List.ne_and_not_mem_of_not_mem_cons h
    rw [List.cons_append, linesAtFeed, if_neg (Ne.symm hc), ih hline]
    rfl

theorem linesAtFeed_of_unbroken (h : '\n' ∉ line) (hne : line ≠ []) :
    linesAtFeed line = [line] := by
  induction line with
  | nil => contradiction
  | cons c line ih =>
    obtain ⟨hc, hline⟩ := List.ne_and_not_mem_of_not_mem_cons h
    rw [linesAtFeed, if_neg (Ne.symm hc)]
    by_cases hl : line = []
    · rw [hl]
      rfl
    · rw [ih hline hl]
      rfl

theorem trimLineEnd_of_unbroken (h : Unbroken line) : trimLineEnd line = line := by
  induction line with
  | nil => rfl
  | cons c line ih =>
    obtain ⟨hr, hn, hline⟩ := h.of_cons
    have hc : (c == '\r' || c == '\n') = false := by simp [hr, hn]
    rw [trimLineEnd, dropEnd_cons, if_neg (by simp [hc])]
    exact congrArg (c :: ·) (ih hline)

theorem trimLineEnd_terminator (h : Unbroken line) (e : Terminator) :
    trimLineEnd (line ++ e.text) = line := by
  induction line with
  | nil => cases e <;> rfl
  | cons c line ih =>
    obtain ⟨hr, hn, hline⟩ := h.of_cons
    have hc : (c == '\r' || c == '\n') = false := by simp [hr, hn]
    rw [List.cons_append, trimLineEnd, dropEnd_cons, if_neg (by simp [hc])]
    exact congrArg (c :: ·) (ih hline)

/-- The lines that are read from a text, whatever ends them. -/
def readLines (t : Text) : List Text :=
  (linesAtFeed (unifyEnds t)).map trimLineEnd

/-- The first line that is read is the one in front of the first terminator. -/
theorem readLines_append (h : Unbroken line) {e : Terminator}
    (he : e = .carriage → t.head? ≠ some '\n') :
    readLines (line ++ (e.text ++ t)) = line :: readLines t := by
  rw [readLines, unifyEnds_append h, unifyEnds_terminator he, linesAtFeed_append h.2, List.map_cons]
  exact congrArg (· :: readLines t) (trimLineEnd_terminator h .feed)

/-- The last line needs no terminator, but is not read if it is empty. -/
theorem readLines_of_unbroken (h : Unbroken line) :
    readLines line = if line = [] then [] else [line] := by
  have hsame : unifyEnds line = line := by
    have happ := unifyEnds_append h []
    rwa [List.append_nil, unifyEnds, List.append_nil] at happ
  rw [readLines, hsame]
  split
  next hl =>
    subst hl
    rfl
  next hl => rw [linesAtFeed_of_unbroken h.2 hl, List.map_singleton, trimLineEnd_of_unbroken h]

end Text

open Text

theorem Source.read_text (t : Text) : (Source.text t).read = .ok (readLines t) := rfl

namespace WrittenLine

variable {l l' : WrittenLine} {ls : List WrittenLine} {last : Text}

/-- Lines with their terminators one after the other, and a last line without one. -/
def write (ls : List WrittenLine) (last : Text) : Text :=
  ls.flatMap (fun l => l.line ++ l.terminator.text) ++ last

/-- The lines that were written; a last one without a terminator is there if it is not empty. -/
def lines (ls : List WrittenLine) (last : Text) : List Text :=
  ls.map line ++ if last = [] then [] else [last]

/-- The terminators of two lines meet: a carriage return ends the first one, and the second one is
only a line feed. -/
def Meets (l l' : WrittenLine) : Prop :=
  l.terminator = .carriage ∧ l' = ⟨[], .feed⟩

instance (l l' : WrittenLine) : Decidable (Meets l l') :=
  inferInstanceAs (Decidable (_ ∧ _))

theorem write_cons (l : WrittenLine) (ls : List WrittenLine) (last : Text) :
    write (l :: ls) last = l.line ++ (l.terminator.text ++ write ls last) := by
  simp [write]

theorem lines_cons (l : WrittenLine) (ls : List WrittenLine) (last : Text) :
    lines (l :: ls) last = l.line :: lines ls last := rfl

/-- What is written starts with a line feed only if the first line is nothing else. -/
theorem head_write (hls : ∀ l ∈ ls, Unbroken l.line) (hlast : Unbroken last)
    (h : (write ls last).head? = some '\n') : ∃ more, ls = ⟨[], .feed⟩ :: more := by
  have starts {t u : Text} (ht : Unbroken t) (hne : t ≠ []) : (t ++ u).head? ≠ some '\n' := by
    obtain ⟨c, t, rfl⟩ := List.exists_cons_of_ne_nil hne
    simpa using ht.of_cons.2.1
  cases ls with
  | nil =>
    by_cases hne : last = []
    · simp [write, hne] at h
    · have := starts (u := []) hlast hne
      rw [List.append_nil] at this
      contradiction
  | cons l ls =>
    obtain ⟨line, e⟩ := l
    rw [write_cons] at h
    by_cases hne : line = []
    · subst hne
      cases e with
      | feed => exact ⟨ls, rfl⟩
      | carriage => simp [Terminator.text] at h
      | both => simp [Terminator.text] at h
    · exact absurd h (starts (hls _ List.mem_cons_self) hne)

/-- A carriage return and the line feed behind it end one line. -/
theorem readLines_of_meets (hl : Unbroken l.line) (h : l.Meets l') (ls : List WrittenLine)
    (last : Text) : readLines (write (l :: l' :: ls) last) = l.line :: readLines (write ls last) := by
  obtain ⟨hcarriage, rfl⟩ := h
  rw [write_cons, write_cons, hcarriage]
  exact readLines_append (e := .both) hl (by simp)

theorem readLines_of_not_meets (hall : ∀ x ∈ l :: ls, Unbroken x.line) (hlast : Unbroken last)
    (h : ∀ l' ∈ ls.head?, ¬ l.Meets l') :
    readLines (write (l :: ls) last) = l.line :: readLines (write ls last) := by
  obtain ⟨hl, hls⟩ := List.forall_mem_cons.mp hall
  rw [write_cons]
  refine readLines_append hl fun hcarriage hhead => ?_
  obtain ⟨more, rfl⟩ := head_write hls hlast hhead
  exact h _ rfl ⟨hcarriage, rfl⟩

/-- No more lines are read than were written. -/
theorem length_readLines_le (hlast : Unbroken last) (ls : List WrittenLine)
    (hls : ∀ l ∈ ls, Unbroken l.line) :
    (readLines (write ls last)).length ≤ (lines ls last).length := by
  match ls, hls with
  | [], _ => exact Nat.le_of_eq (congrArg List.length (readLines_of_unbroken hlast))
  | [l], hls =>
    have ih := length_readLines_le hlast [] (by simp)
    rw [readLines_of_not_meets hls hlast (by simp), lines_cons]
    exact Nat.succ_le_succ ih
  | l :: l' :: ls, hls =>
    obtain ⟨hl, hmore⟩ := List.forall_mem_cons.mp hls
    by_cases h : l.Meets l'
    · have ih := length_readLines_le hlast ls (List.forall_mem_cons.mp hmore).2
      rw [readLines_of_meets hl h, lines_cons, lines_cons]
      simp only [List.length_cons]
      omega
    · have ih := length_readLines_le hlast (l' :: ls) hmore
      rw [readLines_of_not_meets hls hlast (by simpa using h), lines_cons]
      exact Nat.succ_le_succ ih

/-- The lines are read back as they were written, each without its terminator, exactly if nowhere
the terminators of two lines meet. -/
theorem read_write_iff (ls : List WrittenLine) (last : Text) (hls : ∀ l ∈ ls, Unbroken l.line)
    (hlast : Unbroken last) : (Source.text (write ls last)).read = .ok (lines ls last) ↔
      ls.IsChain fun l l' => ¬ l.Meets l' := by
  rw [Source.read_text, Except.ok.injEq]
  induction ls with
  | nil => exact iff_of_true (readLines_of_unbroken hlast) .nil
  | cons l ls ih =>
    obtain ⟨hl, hmore⟩ := List.forall_mem_cons.mp hls
    rw [List.isChain_cons, lines_cons]
    by_cases h : ∀ l' ∈ ls.head?, ¬ l.Meets l'
    · rw [readLines_of_not_meets hls hlast h, List.cons_inj_right, ih hmore]
      exact (and_iff_right h).symm
    · refine iff_of_false (fun heq => ?_) fun hchain => h hchain.1
      -- A line is lost where two terminators meet, and the others cannot make up for it.
      obtain ⟨l', hhead, hmeets⟩ : ∃ l', ls.head? = some l' ∧ l.Meets l' := by simpa using h
      obtain ⟨ls, rfl⟩ := List.head?_eq_some_iff.mp hhead
      have hle := length_readLines_le hlast _ (List.forall_mem_cons.mp hmore).2
      have hlength := congrArg List.length heq
      rw [readLines_of_meets hl hmeets, lines_cons] at hlength
      simp only [List.length_cons] at hlength
      omega

/-- A carriage return before an empty line that ends with both, and a last line without end. -/
theorem read_write_mixed :
    let ls : List WrittenLine := [⟨['a'], .carriage⟩, ⟨[], .both⟩, ⟨[], .carriage⟩, ⟨[' '], .feed⟩]
    (∀ l ∈ ls, Unbroken l.line) ∧ Unbroken ['b'] ∧
      (Source.text (write ls ['b'])).read = .ok [['a'], [], [], [' '], ['b']] :=
  ⟨by decide, by decide, (read_write_iff _ _ (by decide) (by decide)).mpr (by decide)⟩

end WrittenLine
end MigrationScript
