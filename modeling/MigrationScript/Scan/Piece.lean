import MigrationScript.Scan.Literal

/-!
A line cut into pieces: characters of code, the marks that open and close literals, and what is
hidden inside comments and literals. The pieces make up the line, which is the main statement.
-/
namespace MigrationScript

/-- Where a scan stands at the end of a line. -/
inductive Mode where
  | code
  /-- Inside a block comment. -/
  | comment
  /-- Inside a literal or a quoted name. -/
  | literal (l : Literal)
  deriving DecidableEq, Repr

inductive Piece where
  | code (c : Char)
  /-- The opening or closing mark of a literal. -/
  | mark (m : Mark)
  /-- A comment, its marks included, or the inside of a literal. -/
  | hidden (t : Text)
  deriving DecidableEq, Repr

namespace Piece

/-- The text of the line that the piece covers. -/
def text : Piece → Text
  | code c => [c]
  | mark m => m.text
  | hidden t => t

/-- What the piece gives to the line's code. -/
def kept : Piece → Text
  | code c => [c]
  | mark m => m.text
  | hidden _ => []

/-- Something other than white space stands in the code here. -/
def isSolid : Piece → Bool
  | code c => !isBlank c
  | mark _ => true
  | hidden _ => false

end Piece

/-- The pieces of the rest of a line and the mode it ends in; `before` is the character in front
of the rest. -/
def scanFrom (d : Dialect) (m : Mode) (before : Option Char) (t : Text) : List Piece × Mode :=
  match t with
  | [] => ([], m)
  | c :: rest =>
    match m with
    | .comment =>
      match Text.find? ['*', '/'] (c :: rest) with
      | none => ([.hidden (c :: rest)], .comment)
      | some n =>
        let (ps, last) := scanFrom d .code (some '/') (rest.drop (n + 1))
        (.hidden ((c :: rest).take (n + 2)) :: ps, last)
    | .literal l =>
      match l.close? (c :: rest) with
      | none => ([.hidden (c :: rest)], .literal l)
      | some n =>
        let (ps, last) :=
          scanFrom d .code l.closer.text.getLast? (rest.drop (n + l.closer.more.length))
        (.hidden ((c :: rest).take n) :: .mark l.closer :: ps, last)
    | .code =>
      if d.startsLineComment (c :: rest) then ([.hidden (c :: rest)], .code)
      else if startsBlockComment (c :: rest) then
        let (ps, last) := scanFrom d .comment (some '*') (rest.drop 1)
        (.hidden ['/', '*'] :: ps, last)
      else match d.opener? before (c :: rest) with
        | some o =>
          let (ps, last) :=
            scanFrom d (.literal o.literal) o.mark.text.getLast? (rest.drop o.mark.more.length)
          (.mark o.mark :: ps, last)
        | none =>
          let (ps, last) := scanFrom d .code (some c) rest
          (.code c :: ps, last)
termination_by t.length
decreasing_by all_goals (simp only [List.length_drop, List.length_cons]; omega)

/-- The code of some pieces: literals are reduced to their marks, comments are gone. -/
def Piece.codeOf (ps : List Piece) : Text :=
  ps.flatMap Piece.kept

/-- Where the last solid piece ends, counted in characters of the line; zero if none is solid. -/
def Piece.codeEnd : List Piece → Nat
  | [] => 0
  | p :: ps =>
    match codeEnd ps with
    | 0 => if p.isSolid then p.text.length else 0
    | n + 1 => p.text.length + (n + 1)

/-- A text that has a mark at `n`, put together from what is before it, the mark and the rest. -/
private theorem take_mark_drop {m : Mark} {c : Char} {rest r : Text} {n : Nat}
    (h : (c :: rest).drop n = m.text ++ r) :
    (c :: rest).take n ++ (m.text ++ rest.drop (n + m.more.length)) = c :: rest := by
  have hr : (c :: rest).drop (n + m.text.length) = r := by
    rw [← List.drop_drop, h, List.drop_left]
  have hs : rest.drop (n + m.more.length) = (c :: rest).drop (n + m.text.length) := rfl
  rw [hs, hr, ← h, List.take_append_drop]

/-- The pieces of a text make it up. -/
theorem text_scanFrom (d : Dialect) (m : Mode) (before : Option Char) (t : Text) :
    (scanFrom d m before t).1.flatMap Piece.text = t := by
  fun_induction scanFrom d m before t with
  | case1 => rfl
  | case2 => simp [Piece.text]
  | case3 before c rest n hn ps last he ih =>
    obtain ⟨r, hr⟩ := Text.drop_of_find? hn
    have hm : (c :: rest).drop n = (⟨'*', ['/']⟩ : Mark).text ++ r := hr
    have ht : (c :: rest).take (n + 2) = (c :: rest).take n ++ ['*', '/'] := by
      rw [List.take_add, hr]
      rfl
    have hw := take_mark_drop hm
    rw [he] at ih
    simp only [List.flatMap_cons, Piece.text, ih, ht, List.append_assoc]
    exact hw
  | case4 => simp [Piece.text]
  | case5 before c rest l n hn ps last he ih =>
    obtain ⟨r, hr⟩ := Literal.drop_of_close? hn
    rw [he] at ih
    simp only [List.flatMap_cons, Piece.text, ih]
    exact take_mark_drop hr
  | case6 => simp [Piece.text]
  | case7 before c rest hl hb ps last he ih =>
    obtain ⟨r, hr⟩ := List.isPrefixOf_iff_prefix.mp hb
    have hm : (c :: rest).drop 0 = (⟨'/', ['*']⟩ : Mark).text ++ r := hr.symm
    have hw := take_mark_drop hm
    rw [he] at ih
    simp only [List.flatMap_cons, Piece.text, ih]
    simpa [Mark.text] using hw
  | case8 before c rest hl hb o ho ps last he ih =>
    obtain ⟨r, hr⟩ := Dialect.eq_append_of_opener? ho
    have hw := take_mark_drop (n := 0) hr
    rw [he] at ih
    simp only [List.flatMap_cons, Piece.text, ih]
    simpa using hw
  | case9 before c rest hl hb ho ps last he ih =>
    rw [he] at ih
    simp [Piece.text, ih]

/-- The code ends inside the text. -/
theorem Piece.codeEnd_le (ps : List Piece) :
    Piece.codeEnd ps ≤ (ps.flatMap Piece.text).length := by
  induction ps with
  | nil => simp [codeEnd]
  | cons p ps ih =>
    rw [List.flatMap_cons, List.length_append, codeEnd]
    split
    · split <;> omega
    · omega

end MigrationScript
