import MigrationScript.Proofs.Places

/-!
What stands inside literals and comments. A stretch of a line that neither ends its literal or
comment nor hides what follows it may be exchanged for any other such stretch: the line gives the
same code, and the statement that takes it in goes on in the same way.
-/
namespace MigrationScript

open Text

/-- The line `a ++ (x ++ v)`, met in some mode, has the stretch `x` inside a literal or a comment,
which does not end in it. -/
inductive Dialect.Hides (d : Dialect) (m : Mode) (a x v : Text) : Prop where
  | literal {l : Literal} {k : Text} {b : Option Char}
      (place : d.Reaches m none (a ++ (x ++ v)) k (.literal l) b (x ++ v))
      (unended : ¬ StartsIn l.closer.text x v) (plain : l.escapes = true → '\\' ∉ x)
  | comment {k : Text} {b : Option Char}
      (place : d.Reaches m none (a ++ (x ++ v)) k .comment b (x ++ v))
      (unended : ¬ StartsIn ['*', '/'] x v)
  | lineComment {f mark k : Text} {b : Option Char} (line : a = f ++ mark)
      (place : d.Reaches m none (f ++ (mark ++ (x ++ v))) k .code b (mark ++ (x ++ v)))
      (starts : d.startsLineComment mark = true)

namespace Dialect

variable {d : Dialect} {m : Mode} {a x y v : Text} {c : Char} {l : Literal}

/-- Behind the mark of a line comment nothing is code. -/
theorem Reaches.read_lineComment {b b' : Option Char} {t mark k w : Text}
    (h : d.Reaches m b t k .code b' (mark ++ w)) (starts : d.startsLineComment mark = true) :
    d.read m b t = (k, .code) := by
  have hline := startsLineComment_append starts w
  have hne : mark ++ w ≠ [] := by
    intro hn
    simp [hn, startsLineComment] at hline
  obtain ⟨c, u, hu⟩ := List.exists_cons_of_ne_nil hne
  rw [hu] at h hline
  rw [h.read, read_token (.lineComment hline), read_nil, prepend_nil, prepend, List.append_nil]

/-- A line is read as if the hidden stretch were not there, in a line comment only up to it. -/
theorem Hides.read (h : d.Hides m a x v) : d.read m none (a ++ (x ++ v)) =
    if (d.read m none a).2 = .code then d.read m none a
    else prepend (d.read m none a).1 (d.read (d.read m none a).2 none v) := by
  cases h with
  | @literal l k b place unended plain =>
    obtain ⟨b', hrest⟩ := reaches_inLiteral unended plain b
    rw [place.read_front, (place.trans hrest).read, List.append_nil,
      read_before none (by simp)]
    rfl
  | @comment k b place unended =>
    obtain ⟨b', hrest⟩ := reaches_inComment unended b
    rw [place.read_front, (place.trans hrest).read, List.append_nil,
      read_before none (by simp)]
    rfl
  | @lineComment f mark k b line place starts =>
    subst line
    have hfront : d.Reaches m none (f ++ mark) k .code b (mark ++ []) := by
      rw [List.append_nil]
      rw [← List.append_assoc] at place
      exact place.of_append
    rw [List.append_assoc, place.read_lineComment starts, hfront.read_lineComment starts]
    rfl

end Dialect

namespace Draft

variable {d : Dialect} {s s' : Draft} {a x y v line : Text}

/-- What decides how a draft goes on: all but the lines it has and the place where the code of the
last one ends. -/
def state (s : Draft) : Draft :=
  { s with lines := [], stop := 0 }

theorem state_add (s : Draft) (line : Text) : (s.add d line).state = (s.state.add d line).state :=
  rfl

theorem state_addAll (h : s.state = s'.state) (lines : List Text) :
    (s.addAll d lines).state = (s'.addAll d lines).state := by
  induction lines generalizing s s' with
  | nil => exact h
  | cons line lines ih =>
    refine ih ?_
    rw [state_add, h, ← state_add]

/-- Of a line only its code and the mode that it leaves matter for what follows. -/
theorem state_add_of_scan {line' : Text} (hcode : (s.scan d line).code = (s.scan d line').code)
    (hmode : (s.scan d line).mode = (s.scan d line').mode) :
    (s.add d line).state = (s.add d line').state := by
  have hplain : (s.scan d line).plainCode = (s.scan d line').plainCode := by
    rw [Scan.plainCode, Scan.plainCode, hcode]
  simp only [state, add, hplain, hmode]
  rfl

/-- Two drafts that took in different lines, and are alike but for these. -/
structure Alike (d : Dialect) (s s' : Draft) : Prop where
  mode : s.mode = s'.mode
  delimiter : s.delimiter d = s'.delimiter d
  depth : s.depth = s'.depth
  terminated : s.terminated = s'.terminated

theorem alike_of_state (h : s.state = s'.state) : s.Alike d s' where
  mode := (congrArg Draft.mode h :)
  delimiter := (congrArg (Draft.delimiter d) h :)
  depth := (congrArg Draft.depth h :)
  terminated := (congrArg Draft.terminated h :)

/-- What stands inside a literal or a comment has no influence: two lines that differ in it only
give the same code, and after them and any further lines the statement is in the same state. -/
theorem alike_add_hidden (hdata : s.readsData d = false) (hx : d.Hides s.mode a x v)
    (hy : d.Hides s.mode a y v) :
    (s.scan d (a ++ (x ++ v))).code = (s.scan d (a ++ (y ++ v))).code ∧
      ∀ later, Alike d ((s.add d (a ++ (x ++ v))).addAll d later)
        ((s.add d (a ++ (y ++ v))).addAll d later) := by
  have hread := hx.read.trans hy.read.symm
  obtain ⟨hcode, hmode⟩ := scan_of_code hdata (a ++ (x ++ v))
  obtain ⟨hcode', hmode'⟩ := scan_of_code hdata (a ++ (y ++ v))
  have hcodes : (s.scan d (a ++ (x ++ v))).code = (s.scan d (a ++ (y ++ v))).code := by
    rw [hcode, hcode', hread]
  have hmodes : (s.scan d (a ++ (x ++ v))).mode = (s.scan d (a ++ (y ++ v))).mode := by
    rw [← mode_add, ← mode_add, hmode, hmode', hread]
  exact ⟨hcodes, fun later => alike_of_state (state_addAll (state_add_of_scan hcodes hmodes) later)⟩

/-- A comment's mark and a delimiter inside a literal, against nothing at all. -/
theorem alike_add_hidden_semicolon :
    let a := ['\x27']
    let x := "; -- ".toList
    let v := "' ;".toList
    (({} : Draft).readsData .mysql = false ∧ Dialect.mysql.Hides .code a x v ∧
      Dialect.mysql.Hides .code a [] v) ∧
      (({} : Draft).scan .mysql (a ++ (x ++ v))).code =
          (({} : Draft).scan .mysql (a ++ ([] ++ v))).code ∧
        ∀ later, Alike .mysql ((({} : Draft).add .mysql (a ++ (x ++ v))).addAll .mysql later)
          ((({} : Draft).add .mysql (a ++ ([] ++ v))).addAll .mysql later) := by
  intro a x v
  have hplace (w : Text) := (Dialect.Token.start (d := .mysql) (b := none)
    (o := ⟨⟨'\x27', []⟩, ⟨⟨'\x27', []⟩, true⟩⟩) (r := w) rfl).reaches
  have hx : Dialect.mysql.Hides .code a x v :=
    .literal (hplace (x ++ v)) (by decide) (by decide)
  have hy : Dialect.mysql.Hides .code a [] v :=
    .literal (hplace ([] ++ v)) (by decide) (by decide)
  have hdata : ({} : Draft).readsData .mysql = false := rfl
  exact ⟨⟨hdata, hx, hy⟩, alike_add_hidden (s := {}) hdata hx hy⟩

end Draft
end MigrationScript
