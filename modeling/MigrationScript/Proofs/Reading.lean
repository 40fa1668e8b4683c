import MigrationScript.Proofs.Assembly
import MigrationScript.Proofs.Openers

/-!
The code of a text and the mode that the text leaves, character by character: what a scan gives
when its pieces are put together.
-/
namespace MigrationScript

open Dialect

/-- A literal that is open is one that some dialect has. -/
def Mode.Proper : Mode → Prop
  | .literal l => l.Proper
  | _ => True

/-- The code of a text and the mode that it leaves. -/
def Dialect.read (d : Dialect) (m : Mode) (before : Option Char) (t : Text) : Text × Mode :=
  (Piece.codeOf (scanFrom d m before t).1, (scanFrom d m before t).2)

/-- What is read when `code` comes first. -/
def prepend (code : Text) (r : Text × Mode) : Text × Mode :=
  (code ++ r.1, r.2)

@[simp] theorem prepend_nil (r : Text × Mode) : prepend [] r = r := rfl

theorem prepend_prepend (s t : Text) (r : Text × Mode) :
    prepend s (prepend t r) = prepend (s ++ t) r := by
  simp [prepend]

/-- What stands first in a text that is met in some mode behind some character: the code that it
gives, and the mode, the character and the text with which the reading goes on. -/
inductive Dialect.Token (d : Dialect) :
    Mode → Option Char → Text → Text → Mode → Option Char → Text → Prop where
  | commentEnd {b : Option Char} (r : Text) :
      Token d .comment b ('*' :: '/' :: r) [] .code (some '/') r
  | inComment {b : Option Char} {c : Char} {t : Text}
      (no : ['*', '/'].isPrefixOf (c :: t) = false) :
      Token d .comment b (c :: t) [] .comment (some c) t
  | hiddenChar {l : Literal} {b : Option Char} {c : Char} (e : Char) (t : Text)
      (hides : (l.escapes && c == '\\') = true) :
      Token d (.literal l) b (c :: e :: t) [] (.literal l) (some e) t
  | lastBackslash {l : Literal} {b : Option Char} {c : Char}
      (hides : (l.escapes && c == '\\') = true) :
      Token d (.literal l) b [c] [] (.literal l) (some c) []
  | literalEnd {l : Literal} {b : Option Char} (r : Text)
      (shows : (l.escapes && l.closer.first == '\\') = false) :
      Token d (.literal l) b (l.closer.text ++ r) l.closer.text .code l.closer.text.getLast? r
  | inLiteral {l : Literal} {b : Option Char} {c : Char} {t : Text}
      (shows : (l.escapes && c == '\\') = false)
      (no : l.closer.text.isPrefixOf (c :: t) = false) :
      Token d (.literal l) b (c :: t) [] (.literal l) (some c) t
  | lineComment {b : Option Char} {c : Char} {t : Text}
      (line : d.startsLineComment (c :: t) = true) :
      Token d .code b (c :: t) [] .code (some c) []
  | commentStart {b : Option Char} (r : Text) :
      Token d .code b ('/' :: '*' :: r) [] .comment (some '*') r
  | literalStart {b : Option Char} {o : Opener} (r : Text)
      (noLine : d.startsLineComment (o.mark.text ++ r) = false)
      (noBlock : startsBlockComment (o.mark.text ++ r) = false)
      (opens : d.opener? b (o.mark.text ++ r) = some o) :
      Token d .code b (o.mark.text ++ r) o.mark.text (.literal o.literal) o.mark.text.getLast? r
  | inCode {b : Option Char} {c : Char} {t : Text}
      (noLine : d.startsLineComment (c :: t) = false)
      (noBlock : startsBlockComment (c :: t) = false) (noOpener : d.opener? b (c :: t) = none) :
      Token d .code b (c :: t) [c] .code (some c) t

namespace Dialect

variable {d : Dialect} {m : Mode} {before : Option Char} {t : Text} {c : Char} {l : Literal}

@[simp] theorem read_nil : d.read m before [] = ([], m) := by
  simp [read, scanFrom, Piece.codeOf]

theorem startsLineComment_slash (t : Text) : d.startsLineComment ('/' :: t) = false := by
  simp [startsLineComment, List.isPrefixOf]

/-- What stands in front of a text matters in code only, and there only whether it is the end of a
word. -/
theorem read_before (b : Option Char)
    (h : m = .code → before.any isWordChar = b.any isWordChar) :
    d.read m before t = d.read m b t := by
  cases t with
  | nil => rw [read_nil, read_nil]
  | cons c t =>
    cases m with
    | comment => rw [read, read, scanFrom, scanFrom]
    | literal l => rw [read, read, scanFrom, scanFrom]
    | code =>
      have ho : d.opener? before (c :: t) = d.opener? b (c :: t) := by
        simp only [opener?, h rfl]
      rw [read, read, scanFrom, scanFrom, ho]

/-- A text that is not empty starts with something. -/
theorem exists_token (d : Dialect) (m : Mode) (b : Option Char) {t : Text} (ht : t ≠ []) :
    ∃ k m' b' r, d.Token m b t k m' b' r := by
  obtain ⟨c, t, rfl⟩ := List.exists_cons_of_ne_nil ht
  cases m with
  | comment =>
    by_cases h : ['*', '/'].isPrefixOf (c :: t) = true
    · obtain ⟨r, hr⟩ := List.isPrefixOf_iff_prefix.mp h
      rw [← hr]
      exact ⟨_, _, _, _, .commentEnd r⟩
    · exact ⟨_, _, _, _, .inComment (eq_false_of_ne_true h)⟩
  | literal l =>
    by_cases he : (l.escapes && c == '\\') = true
    · cases t with
      | nil => exact ⟨_, _, _, _, .lastBackslash he⟩
      | cons e t => exact ⟨_, _, _, _, .hiddenChar e t he⟩
    · have he := eq_false_of_ne_true he
      by_cases h : l.closer.text.isPrefixOf (c :: t) = true
      · obtain ⟨r, hr⟩ := List.isPrefixOf_iff_prefix.mp h
        obtain ⟨rfl, -⟩ := List.cons.inj hr
        rw [← hr]
        exact ⟨_, _, _, _, .literalEnd r he⟩
      · exact ⟨_, _, _, _, .inLiteral he (eq_false_of_ne_true h)⟩
  | code =>
    by_cases hl : d.startsLineComment (c :: t) = true
    · exact ⟨_, _, _, _, .lineComment hl⟩
    have hl := eq_false_of_ne_true hl
    by_cases hb : startsBlockComment (c :: t) = true
    · obtain ⟨r, hr⟩ := List.isPrefixOf_iff_prefix.mp hb
      rw [← hr]
      exact ⟨_, _, _, _, .commentStart r⟩
    have hb := eq_false_of_ne_true hb
    cases ho : d.opener? b (c :: t) with
    | none => exact ⟨_, _, _, _, .inCode hl hb ho⟩
    | some o =>
      obtain ⟨r, hr⟩ := eq_append_of_opener? ho
      rw [hr] at hl hb ho ⊢
      exact ⟨_, _, _, _, .literalStart r hl hb ho⟩

/-- Every token takes at least one character. -/
theorem Token.exists_front {k : Text} {m' : Mode} {b' : Option Char} {r : Text}
    (h : d.Token m before t k m' b' r) : ∃ u, u ≠ [] ∧ t = u ++ r := by
  cases h with
  | commentEnd r => exact ⟨['*', '/'], List.cons_ne_nil _ _, rfl⟩
  | @inComment _ c r no => exact ⟨[c], List.cons_ne_nil _ _, rfl⟩
  | @hiddenChar _ _ c e r he => exact ⟨[c, e], List.cons_ne_nil _ _, rfl⟩
  | @lastBackslash _ _ c he => exact ⟨[c], List.cons_ne_nil _ _, rfl⟩
  | literalEnd r he => exact ⟨_, List.cons_ne_nil _ _, rfl⟩
  | @inLiteral _ _ c r he no => exact ⟨[c], List.cons_ne_nil _ _, rfl⟩
  | @lineComment _ c t hl => exact ⟨c :: t, List.cons_ne_nil _ _, (List.append_nil _).symm⟩
  | commentStart r => exact ⟨['/', '*'], List.cons_ne_nil _ _, rfl⟩
  | literalStart r hl hb ho => exact ⟨_, List.cons_ne_nil _ _, rfl⟩
  | @inCode _ c r hl hb ho => exact ⟨[c], List.cons_ne_nil _ _, rfl⟩

/-- What is left to read is a shorter end of the text. -/
theorem Token.suffix {k : Text} {m' : Mode} {b' : Option Char} {r : Text}
    (h : d.Token m before t k m' b' r) : r <:+ t ∧ r.length < t.length := by
  obtain ⟨u, hu, rfl⟩ := h.exists_front
  have hpos := List.length_pos_iff.mpr hu
  refine ⟨List.suffix_append u r, ?_⟩
  rw [List.length_append]
  omega

/-- Literals that a mark of the dialect opens. -/
def HasLiteral (d : Dialect) (l : Literal) : Prop :=
  ∃ o, d.Opens o ∧ o.literal = l

theorem HasLiteral.proper (h : d.HasLiteral l) : l.Proper := by
  obtain ⟨o, ho, rfl⟩ := h
  exact ho.proper.literal

/-- A literal that is open behind a token was open before it, or the token opens it. -/
theorem Token.literal {k : Text} {m' : Mode} {b' : Option Char} {r : Text}
    (h : d.Token m before t k m' b' r) (hl : m' = .literal l) :
    m = .literal l ∨ d.HasLiteral l := by
  cases h with
  | literalStart r noLine noBlock opens =>
    exact .inr ⟨_, opens_of_opener? opens, Mode.literal.inj hl⟩
  | _ => first | exact .inl hl | contradiction

theorem Token.proper {k : Text} {m' : Mode} {b' : Option Char} {r : Text}
    (h : d.Token m before t k m' b' r) (hm : m.Proper) : m'.Proper := by
  cases hl : m' with
  | literal l =>
    rcases h.literal hl with rfl | hd
    · exact hm
    · exact hd.proper
  | _ => trivial

theorem read_comment_none (h : Text.find? ['*', '/'] t = none) :
    d.read .comment before t = ([], .comment) := by
  cases t with
  | nil => exact read_nil
  | cons c t =>
    rw [read, scanFrom, h]
    rfl

theorem read_comment_some {n : Nat} (h : Text.find? ['*', '/'] t = some n) :
    d.read .comment before t = d.read .code (some '/') (t.drop (n + 2)) := by
  cases t with
  | nil => simp [Text.find?] at h
  | cons c t =>
    rw [read, scanFrom, h]
    rfl

theorem read_literal_none (h : l.close? t = none) :
    d.read (.literal l) before t = ([], .literal l) := by
  cases t with
  | nil => exact read_nil
  | cons c t =>
    rw [read, scanFrom, h]
    rfl

theorem read_literal_some {n : Nat} (h : l.close? t = some n) :
    d.read (.literal l) before t =
      prepend l.closer.text
        (d.read .code l.closer.text.getLast? (t.drop (n + l.closer.text.length))) := by
  cases t with
  | nil => simp [Literal.close?] at h
  | cons c t =>
    rw [read, scanFrom, h]
    rfl

private theorem read_inComment (b : Option Char) (h : ['*', '/'].isPrefixOf (c :: t) = false) :
    d.read .comment before (c :: t) = d.read .comment b t := by
  have hf : Text.find? ['*', '/'] (c :: t) = (Text.find? ['*', '/'] t).map (· + 1) := by
    rw [Text.find?, h]
    rfl
  cases ht : Text.find? ['*', '/'] t with
  | none => rw [read_comment_none ht, read_comment_none (by rw [hf, ht]; rfl)]
  | some n =>
    rw [read_comment_some ht, read_comment_some (n := n + 1) (by rw [hf, ht]; rfl)]
    rfl

private theorem read_literalEnd (he : (l.escapes && l.closer.first == '\\') = false) (r : Text) :
    d.read (.literal l) before (l.closer.text ++ r) =
      prepend l.closer.text (d.read .code l.closer.text.getLast? r) := by
  have hp : l.closer.text.isPrefixOf (l.closer.first :: (l.closer.more ++ r)) = true :=
    List.isPrefixOf_iff_prefix.mpr (List.prefix_append l.closer.text r)
  have hc : l.close? (l.closer.text ++ r) = some 0 := by
    rw [Mark.text, List.cons_append, Literal.close?.eq_def]
    simp [he, hp]
  rw [read_literal_some hc, Nat.zero_add, List.drop_left]

/-- Inside a literal the reading passes over `n` characters if the search for the end does. -/
private theorem read_inLiteral (b : Option Char) {n : Nat} {u : Text} (hu : u.length = n)
    (hc : l.close? (u ++ t) = (l.close? t).map (· + n)) :
    d.read (.literal l) before (u ++ t) = d.read (.literal l) b t := by
  cases ht : l.close? t with
  | none => rw [read_literal_none ht, read_literal_none (by rw [hc, ht]; rfl)]
  | some k =>
    rw [read_literal_some ht, read_literal_some (n := k + n) (by rw [hc, ht]; rfl),
      Nat.add_right_comm, Nat.add_comm, ← hu, List.drop_length_add_append]

/-- A text is read token by token. -/
theorem read_token {k : Text} {m' : Mode} {b' : Option Char} {r : Text}
    (h : d.Token m before t k m' b' r) :
    d.read m before t = prepend k (d.read m' b' r) := by
  cases h with
  | commentEnd r => exact read_comment_some (n := 0) (by simp [Text.find?])
  | inComment no => exact read_inComment _ no
  | @hiddenChar l _ c e t he =>
    refine read_inLiteral _ (u := [c, e]) rfl ?_
    rw [List.cons_append, Literal.close?.eq_def]
    simp [he]
  | lastBackslash he =>
    rw [read_nil]
    apply read_literal_none
    rw [Literal.close?.eq_def]
    simp [he]
  | literalEnd r he => exact read_literalEnd he r
  | @inLiteral l _ c t he no =>
    refine read_inLiteral _ (u := [c]) rfl ?_
    rw [List.cons_append, Literal.close?.eq_def]
    simp [he, no]
  | lineComment hl =>
    rw [read_nil, read, scanFrom]
    simp [hl, Piece.codeOf, Piece.kept, prepend]
  | commentStart r =>
    have hb : startsBlockComment ('/' :: '*' :: r) = true := by simp [startsBlockComment]
    rw [read, scanFrom]
    simp [read, startsLineComment_slash, hb, Piece.codeOf, Piece.kept]
  | literalStart r hl hb ho =>
    simp only [Mark.text, List.cons_append] at hl hb ho
    simp only [read, prepend, Mark.text, List.cons_append]
    rw [scanFrom]
    simp [hl, hb, ho, Piece.codeOf, Piece.kept, Mark.text]
  | inCode hl hb ho =>
    simp only [read, prepend]
    rw [scanFrom]
    simp [hl, hb, ho, Piece.codeOf, Piece.kept]

/-- What holds of the empty text, and of a text if it holds of what its first token leaves, holds
of all texts. -/
theorem token_induction (d : Dialect) {motive : Mode → Option Char → Text → Prop}
    (nil : ∀ m b, motive m b [])
    (token : ∀ {m b t k m' b' r}, d.Token m b t k m' b' r → motive m' b' r → motive m b t)
    (m : Mode) (b : Option Char) (t : Text) : motive m b t := by
  match t with
  | [] => exact nil m b
  | c :: t =>
    obtain ⟨k, m', b', r, h⟩ := exists_token d m b (List.cons_ne_nil c t)
    exact token h (token_induction d nil token m' b' r)
termination_by t.length
decreasing_by exact h.suffix.2

/-- A reading leaves a literal open that was open before it or is one of the dialect. -/
theorem literal_read (d : Dialect) {m : Mode} {b : Option Char} {t : Text}
    (h : (d.read m b t).2 = .literal l) : m = .literal l ∨ d.HasLiteral l := by
  induction m, b, t using token_induction d with
  | nil m b =>
    rw [read_nil] at h
    exact .inl h
  | token ht ih =>
    rw [read_token ht] at h
    rcases ih h with hl | hl
    · exact ht.literal hl
    · exact .inr hl

end Dialect

/-- The code of a text consists of characters of the text. -/
theorem Piece.codeOf_subset (ps : List Piece) : Piece.codeOf ps ⊆ ps.flatMap Piece.text := by
  intro c hc
  obtain ⟨p, hp, hc⟩ := List.mem_flatMap.mp hc
  refine List.mem_flatMap.mpr ⟨p, hp, ?_⟩
  cases p with
  | code _ => exact hc
  | mark _ => exact hc
  | hidden _ => exact absurd hc List.not_mem_nil

theorem Dialect.read_subset (d : Dialect) (m : Mode) (before : Option Char) (t : Text) :
    (d.read m before t).1 ⊆ t := by
  intro c hc
  have h := Piece.codeOf_subset _ hc
  rwa [text_scanFrom] at h

namespace Draft

variable {d : Dialect} {s : Draft} {line : Text}

theorem code_scan_subset (d : Dialect) (s : Draft) (line : Text) : (s.scan d line).code ⊆ line := by
  unfold scan
  split
  · exact List.Subset.refl line
  · exact d.read_subset s.mode none line

/-- A line of code is read in the mode that the lines before it leave. -/
theorem scan_of_code (h : s.readsData d = false) (line : Text) :
    (s.scan d line).code = (d.read s.mode none line).1 ∧
      (s.add d line).mode = (d.read s.mode none line).2 := by
  rw [mode_add, scan, h]
  exact ⟨rfl, rfl⟩

/-- Data open and close nothing. -/
theorem mode_add_of_data (h : s.readsData d = true) (line : Text) :
    (s.add d line).mode = s.mode := by
  rw [mode_add, scan, h]
  rfl

theorem literal_add {l : Literal} (h : (s.add d line).mode = .literal l) :
    s.mode = .literal l ∨ d.HasLiteral l := by
  rw [mode_add, scan] at h
  split at h
  · exact .inl h
  · exact d.literal_read h

theorem literal_addAll {l : Literal} {lines : List Text}
    (h : (s.addAll d lines).mode = .literal l) : s.mode = .literal l ∨ d.HasLiteral l := by
  induction lines generalizing s with
  | nil => exact .inl h
  | cons line lines ih =>
    rcases ih h with hl | hl
    · exact literal_add hl
    · exact .inr hl

/-- Only literals are left open that some dialect has. -/
theorem proper_addAll (hm : s.mode.Proper) (lines : List Text) :
    (s.addAll d lines).mode.Proper := by
  cases hl : (s.addAll d lines).mode with
  | literal l =>
    rcases literal_addAll hl with hs | hd
    · rw [hs] at hm
      exact hm
    · exact hd.proper
  | _ => trivial

theorem proper_add (hm : s.mode.Proper) : (s.add d line).mode.Proper :=
  proper_addAll hm [line]

end Draft
end MigrationScript
