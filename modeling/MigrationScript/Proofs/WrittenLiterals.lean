import MigrationScript.Proofs.Places
import MigrationScript.Proofs.Words

/-!
Literals as people write them: with doubled quotation marks, with backslashes, or between longer
marks of which the closing one stands nowhere else in the text. Such a literal, over however many
lines it goes, gives its marks to the code and nothing else, and behind it the reading goes on in
code. The exception are literals into which the data of a copy break; these are never closed.
-/
namespace MigrationScript

open Text

namespace Text

/-- The text with every `q` written twice. -/
def doubled (q : Char) (w : Text) : Text :=
  w.flatMap fun c => if c = q then [q, q] else [c]

/-- Of the text with every `q` written twice, these characters and the new lines. -/
def doubledCode (q : Char) (w : Text) : Text :=
  w.flatMap fun c => if c = q then [q, q] else keepBreak c

/-- A text, and a way to write it where a backslash hides the character behind it: every backslash
and every `q` has one in front of it, other characters may have one. -/
inductive Escaped (q : Char) : Text → Text → Prop where
  | nil : Escaped q [] []
  | plain {c : Char} {w t : Text} (noSlash : c ≠ '\\') (noQuote : c ≠ q) (rest : Escaped q w t) :
      Escaped q (c :: w) (c :: t)
  | hidden (c : Char) {w t : Text} (rest : Escaped q w t) : Escaped q (c :: w) ('\\' :: c :: t)

end Text

/-- A literal of a dialect: the text that it stands for, how it is written, and what it gives to the
code, which are its marks and the new lines in it. -/
inductive Dialect.Writes (d : Dialect) : Text → Text → Text → Prop where
  | quoted {q : Char} (w : Text) (hd : d ≠ .mysql) (hq : q = '\x27' ∨ q = '"') :
      Writes d w (q :: (doubled q w ++ [q])) (q :: (doubledCode q w ++ [q]))
  | backticked (w : Text) (hd : d = .mysql ∨ d = .sqlite) :
      Writes d w ('\x60' :: (doubled '\x60' w ++ ['\x60']))
        ('\x60' :: (doubledCode '\x60' w ++ ['\x60']))
  | escaped {q : Char} {w t : Text} (hd : d = .mysql) (hq : q = '\x27' ∨ q = '"')
      (inner : Escaped q w t) :
      Writes d w (q :: (t ++ [q])) (q :: (w.flatMap keepBreak ++ [q]))
  | alternative {n w : Text} {q c : Char} (hd : d = .oracle) (hn : n = [] ∨ n = ['n'] ∨ n = ['N'])
      (hq : q = 'q' ∨ q = 'Q') (hc : isBlank c = false)
      (first : ¬ StartsIn [partner c, '\x27'] w [partner c, '\x27']) :
      Writes d w (n ++ [q, '\x27', c] ++ (w ++ [partner c, '\x27']))
        (n ++ [q, '\x27', c] ++ (w.flatMap keepBreak ++ [partner c, '\x27']))
  | dollared {tag w : Text} (hd : d = .postgres) (digit : tag.head?.any Char.isDigit = false)
      (htag : ∀ c ∈ tag, isTagChar c = true)
      (first : ¬ StartsIn ('$' :: (tag ++ ['$'])) w ('$' :: (tag ++ ['$']))) :
      Writes d w ('$' :: (tag ++ ['$']) ++ (w ++ '$' :: (tag ++ ['$'])))
        ('$' :: (tag ++ ['$']) ++ (w.flatMap keepBreak ++ '$' :: (tag ++ ['$'])))

/-- What stands in a literal behind its opening mark, up to its end and the closing mark, and what
of it is code. A closing mark that opens the same literal anew does not end it. -/
inductive Dialect.Interior (d : Dialect) (l : Literal) : Text → Text → Prop where
  | closer (shows : (l.escapes && l.closer.first == '\\') = false) :
      Interior d l l.closer.text l.closer.text
  | char {c : Char} {t k : Text} (shows : (l.escapes && c == '\\') = false)
      (no : ∀ z, l.closer.text.isPrefixOf (c :: (t ++ z)) = false) (rest : Interior d l t k) :
      Interior d l (c :: t) (keepBreak c ++ k)
  | hidden {e : Char} {t k : Text} (hides : l.escapes = true) (rest : Interior d l t k) :
      Interior d l ('\\' :: e :: t) (keepBreak e ++ k)
  | reopened {q : Char} {t k : Text} (opens : quote? d q = some ⟨⟨q, []⟩, ⟨⟨q, []⟩, false⟩⟩)
      (single : l = ⟨⟨q, []⟩, false⟩) (rest : Interior d l t k) :
      Interior d l (q :: q :: t) (q :: q :: k)

namespace Dialect

variable {d : Dialect} {l : Literal} {o : Opener} {b : Option Char} {c q : Char}
  {t k u v w z : Text}

theorem lex_closer (shows : (l.escapes && l.closer.first == '\\') = false) (b : Option Char)
    (z : Text) : d.lex (.literal l) b (l.closer.text ++ z) =
      prepend l.closer.text (d.lex .code l.closer.text.getLast? z) := by
  have hp : l.closer.text.isPrefixOf (l.closer.first :: (l.closer.more ++ z)) = true :=
    List.isPrefixOf_iff_prefix.mpr (List.prefix_append l.closer.text z)
  rw [lex.eq_def]
  simp only [Mark.text, List.cons_append] at hp ⊢
  simp only [shows, hp, if_true, List.drop_left]
  rfl

theorem lex_inLiteral (shows : (l.escapes && c == '\\') = false)
    (no : l.closer.text.isPrefixOf (c :: t) = false) (b : Option Char) :
    d.lex (.literal l) b (c :: t) = prepend (keepBreak c) (d.lex (.literal l) (some c) t) := by
  rw [lex.eq_def]
  simp only [shows, no]
  rfl

theorem lex_hidden (hides : l.escapes = true) (b : Option Char) (e : Char) (t : Text) :
    d.lex (.literal l) b ('\\' :: e :: t) =
      prepend (keepBreak e) (d.lex (.literal l) (some e) t) := by
  rw [lex.eq_def]
  simp [hides]

theorem lex_opener (h : d.opener? b (o.mark.text ++ z) = some o) :
    d.lex .code b (o.mark.text ++ z) =
      prepend o.mark.text (d.lex (.literal o.literal) o.mark.text.getLast? z) := by
  obtain ⟨hline, hblock⟩ := (opens_of_opener? h).no_comment z
  rw [lex.eq_def]
  simp only [Mark.text, List.cons_append] at h hline hblock ⊢
  simp only [h, hline, hblock, List.drop_left]
  rfl

/-- A closing mark that opens its literal anew. -/
theorem lex_reopened (opens : quote? d q = some ⟨⟨q, []⟩, ⟨⟨q, []⟩, false⟩⟩) (b : Option Char)
    (z : Text) : d.lex (.literal ⟨⟨q, []⟩, false⟩) b (q :: q :: z) =
      prepend [q, q] (d.lex (.literal ⟨⟨q, []⟩, false⟩) (some q) z) := by
  have hclose := lex_closer (d := d) (l := ⟨⟨q, []⟩, false⟩) rfl b (q :: z)
  have hopen := lex_opener (o := ⟨⟨q, []⟩, ⟨⟨q, []⟩, false⟩⟩) (opener?_of_quote? opens (some q) z)
  exact hclose.trans ((congrArg (prepend [q]) hopen).trans (prepend_prepend _ _ _))

/-- A literal is read up to its closing mark, and what follows is read in code. -/
theorem Interior.lex (h : d.Interior l t k) (b : Option Char) (z : Text) :
    d.lex (.literal l) b (t ++ z) = prepend k (d.lex .code l.closer.text.getLast? z) := by
  induction h generalizing b with
  | closer shows => exact lex_closer shows b z
  | char shows no rest ih =>
    rw [List.cons_append, lex_inLiteral shows (no z), ih, prepend_prepend]
  | hidden hides rest ih =>
    rw [List.cons_append, List.cons_append, lex_hidden hides, ih, prepend_prepend]
  | reopened opens single rest ih =>
    subst single
    rw [List.cons_append, List.cons_append, lex_reopened opens, ih, prepend_prepend]
    rfl

theorem newline_notMem_closer (hl : l.Proper) : '\n' ∉ l.closer.text :=
  fun hn => absurd (hl.solid '\n' hn) (by decide)

/-- Where a line ends inside a literal the literal is open. -/
theorem Interior.open_at_break (h : d.Interior l t k) (hl : l.Proper) (ht : t = u ++ '\n' :: v)
    (b : Option Char) : (d.lex (.literal l) b u).2 = .literal l := by
  induction h generalizing u b with
  | closer shows => exact absurd (by simp [ht]) (newline_notMem_closer hl)
  | @char c t k shows no rest ih =>
    cases u with
    | nil => rw [Dialect.lex]
    | cons e u =>
      simp only [List.cons_append, List.cons.injEq] at ht
      obtain ⟨rfl, rfl⟩ := ht
      have hno : l.closer.text.isPrefixOf (c :: u) = false := by
        have hno := no []
        rw [← Bool.not_eq_true, List.isPrefixOf_iff_prefix] at hno ⊢
        refine fun hp => hno (hp.trans ?_)
        rw [List.append_nil, ← List.cons_append]
        exact List.prefix_append _ _
      rw [lex_inLiteral shows hno]
      exact ih rfl (some c)
  -- Of two characters that are read together a new line may be the second one, but only behind a
  -- backslash.
  | @hidden e t k hides rest ih =>
    rcases u with _ | ⟨x, _ | ⟨y, u⟩⟩
    · rw [Dialect.lex]
    · simp only [List.cons_append, List.nil_append, List.cons.injEq] at ht
      obtain ⟨rfl, -⟩ := ht
      rw [lex.eq_def]
      simp [hides]
    · simp only [List.cons_append, List.cons.injEq] at ht
      obtain ⟨rfl, rfl, rfl⟩ := ht
      rw [lex_hidden hides]
      exact ih rfl (some e)
  | @reopened q t k opens single rest ih =>
    rcases u with _ | ⟨x, _ | ⟨y, u⟩⟩
    · rw [Dialect.lex]
    · simp only [List.cons_append, List.nil_append, List.cons.injEq] at ht
      refine absurd ?_ (newline_notMem_closer hl)
      simp [single, Mark.text, ht.2.1]
    · simp only [List.cons_append, List.cons.injEq] at ht
      obtain ⟨rfl, rfl, rfl⟩ := ht
      subst single
      rw [lex_reopened opens]
      exact ih rfl (some q)

theorem interior_doubled (opens : quote? d q = some ⟨⟨q, []⟩, ⟨⟨q, []⟩, false⟩⟩) (w : Text) :
    d.Interior ⟨⟨q, []⟩, false⟩ (doubled q w ++ [q]) (doubledCode q w ++ [q]) := by
  induction w with
  | nil => exact .closer rfl
  | cons c w ih =>
    simp only [doubled, doubledCode, List.flatMap_cons] at ih ⊢
    by_cases hc : c = q
    · subst hc
      simp only [if_true, List.cons_append, List.nil_append]
      exact .reopened opens rfl ih
    · rw [if_neg hc, if_neg hc, List.singleton_append, List.cons_append, List.append_assoc]
      exact .char rfl (fun z => by simp [Mark.text, List.isPrefixOf, Ne.symm hc]) ih

theorem interior_escaped (hq : q ≠ '\\') (h : Escaped q w t) :
    d.Interior ⟨⟨q, []⟩, true⟩ (t ++ [q]) (w.flatMap keepBreak ++ [q]) := by
  induction h with
  | nil => exact .closer (by simpa using hq)
  | plain noSlash noQuote rest ih =>
    rw [List.flatMap_cons, List.append_assoc, List.cons_append]
    exact .char (by simpa using noSlash)
      (fun z => by simp [Mark.text, List.isPrefixOf, Ne.symm noQuote]) ih
  | hidden c rest ih =>
    rw [List.flatMap_cons, List.append_assoc, List.cons_append, List.cons_append]
    exact .hidden rfl ih

/-- A literal whose closing mark stands only at its end. -/
theorem interior_of_first {m : Mark} (h : ¬ StartsIn m.text w m.text) :
    d.Interior ⟨m, false⟩ (w ++ m.text) (w.flatMap keepBreak ++ m.text) := by
  induction w with
  | nil => exact .closer rfl
  | cons c w ih =>
    rw [List.flatMap_cons, List.append_assoc, List.cons_append]
    refine .char rfl (fun z => ?_) (ih (not_startsIn_cons h).2)
    rw [List.append_assoc]
    exact (not_startsIn_cons (not_startsIn_append h z)).1

theorem opener?_of_nationalQuote? (hb : b.any isWordChar = false)
    (h : nationalQuote? (c :: t) = some o) : oracle.opener? b (c :: t) = some o := by
  simp [opener?, hb, h]

theorem opener?_of_dollarQuote? (hb : b.any isWordChar = false)
    (h : dollarQuote? (c :: t) = some o) : postgres.opener? b (c :: t) = some o := by
  simp [opener?, hb, h]

theorem exists_national_mark {n : Text} (hn : n = [] ∨ n = ['n'] ∨ n = ['N'])
    (hq : q = 'q' ∨ q = 'Q') (hc : isBlank c = false) :
    ∃ m : Mark, m.text = n ++ [q, '\x27', c] ∧
      ∀ r, nationalQuote? (m.text ++ r) = some ⟨m, ⟨⟨partner c, ['\x27']⟩, false⟩⟩ := by
  have halt (r : Text) : alternativeQuote? (q :: '\x27' :: c :: r) =
      some ⟨⟨q, ['\x27', c]⟩, ⟨⟨partner c, ['\x27']⟩, false⟩⟩ := by
    rcases hq with rfl | rfl <;> simp [alternativeQuote?, hc]
  rcases hn with rfl | rfl | rfl
  · refine ⟨⟨q, ['\x27', c]⟩, rfl, fun r => ?_⟩
    rcases hq with rfl | rfl <;> simpa [nationalQuote?, Mark.text] using halt r
  · exact ⟨⟨'n', [q, '\x27', c]⟩, rfl, fun r => by simp [nationalQuote?, Mark.text, halt]⟩
  · exact ⟨⟨'N', [q, '\x27', c]⟩, rfl, fun r => by simp [nationalQuote?, Mark.text, halt]⟩

theorem dollarQuote?_of_tag {tag : Text} (digit : tag.head?.any Char.isDigit = false)
    (htag : ∀ c ∈ tag, isTagChar c = true) (r : Text) :
    dollarQuote? ('$' :: (tag ++ ['$'] ++ r)) =
      some ⟨⟨'$', tag ++ ['$']⟩, ⟨⟨'$', tag ++ ['$']⟩, false⟩⟩ := by
  have hend : isTagChar '$' = false := by decide
  have htake : (tag ++ '$' :: r).takeWhile isTagChar = tag := by
    rw [List.takeWhile_append_of_pos htag, List.takeWhile_cons_of_neg (by simp [hend]),
      List.append_nil]
  have hdrop : (tag ++ '$' :: r).dropWhile isTagChar = '$' :: r := by
    rw [List.dropWhile_append_of_pos htag, List.dropWhile_cons_of_neg (by simp [hend])]
  simp only [List.append_assoc, List.singleton_append, dollarQuote?, htake, hdrop]
  simp [digit]

/-- A literal that is written at the start of a line or behind white space is opened there, and what
follows its opening mark runs up to its end. -/
theorem Writes.opened (h : d.Writes w t k) (hb : ∀ c, b = some c → isBlank c = true) :
    ∃ o body code, t = o.mark.text ++ body ∧ k = o.mark.text ++ code ∧
      (∀ r, d.opener? b (o.mark.text ++ r) = some o) ∧ d.Interior o.literal body code := by
  have hword : b.any isWordChar = false := by
    cases b with
    | none => rfl
    | some c => exact isWordChar_of_isBlank (hb c rfl)
  cases h with
  | @quoted q w hd hq =>
    have hopens := quote?_of_quoted hd hq
    exact ⟨⟨⟨q, []⟩, ⟨⟨q, []⟩, false⟩⟩, _, _, rfl, rfl, opener?_of_quote? hopens b,
      interior_doubled hopens w⟩
  | backticked w hd =>
    have hopens := quote?_of_backticked hd
    exact ⟨⟨⟨'\x60', []⟩, ⟨⟨'\x60', []⟩, false⟩⟩, _, _, rfl, rfl, opener?_of_quote? hopens b,
      interior_doubled hopens w⟩
  | @escaped q w t hd hq inner =>
    subst hd
    have hslash : q ≠ '\\' := by rcases hq with rfl | rfl <;> decide
    exact ⟨⟨⟨q, []⟩, ⟨⟨q, []⟩, true⟩⟩, _, _, rfl, rfl, opener?_of_quote? (quote?_of_escaped hq) b,
      interior_escaped hslash inner⟩
  | @alternative n w q c hd hn hq hc first =>
    subst hd
    obtain ⟨m, hm, hquote⟩ := exists_national_mark hn hq hc
    rw [← hm]
    exact ⟨⟨m, ⟨⟨partner c, ['\x27']⟩, false⟩⟩, _, _, rfl, rfl,
      fun r => opener?_of_nationalQuote? hword (hquote r), interior_of_first first⟩
  | @dollared tag w hd digit htag first =>
    subst hd
    exact ⟨⟨⟨'$', tag ++ ['$']⟩, ⟨⟨'$', tag ++ ['$']⟩, false⟩⟩, _, _, rfl, rfl,
      fun r => opener?_of_dollarQuote? hword (dollarQuote?_of_tag digit htag r),
      interior_of_first first⟩

theorem Interior.suffix (h : d.Interior l t k) : l.closer.text <:+ t := by
  induction h with
  | closer => exact List.suffix_rfl
  | char shows no rest ih => exact ih.trans (List.suffix_cons _ _)
  | hidden hides rest ih => exact ih.trans ((List.suffix_cons _ _).trans (List.suffix_cons _ _))
  | reopened opens single rest ih =>
    exact ih.trans ((List.suffix_cons _ _).trans (List.suffix_cons _ _))

/-- A written literal gives its marks, and behind it stands code. -/
theorem Writes.lex (h : d.Writes w t k) (hb : ∀ c, b = some c → isBlank c = true) (z : Text) :
    d.lex .code b (t ++ z) = prepend k (d.lex .code t.getLast? z) := by
  obtain ⟨o, body, code, rfl, rfl, hopens, hbody⟩ := h.opened hb
  have hlast : (o.mark.text ++ body).getLast? = o.literal.closer.text.getLast? := by
    obtain ⟨front, rfl⟩ := hbody.suffix
    rw [← List.append_assoc, List.getLast?_append, Mark.text, List.getLast?_cons, Option.some_or]
  rw [List.append_assoc, lex_opener (hopens (body ++ z)), hbody.lex, prepend_prepend, hlast]

/-- Where a line ends within a written literal, a literal is open. -/
theorem Writes.open_at_break (h : d.Writes w t k) (hb : ∀ c, b = some c → isBlank c = true)
    (ht : t = u ++ '\n' :: v) : ∃ l, (d.lex .code b u).2 = .literal l := by
  obtain ⟨o, body, code, rfl, rfl, hopens, hbody⟩ := h.opened hb
  have hproper := (opens_of_opener? (hopens [])).proper
  rcases List.append_eq_append_iff.mp ht with ⟨more, rfl, hmore⟩ | ⟨more, hmark, hmore⟩
  · refine ⟨o.literal, ?_⟩
    rw [lex_opener (hopens more)]
    exact hbody.open_at_break hproper.literal hmore _
  · cases more with
    | nil =>
      rw [List.append_nil] at hmark
      refine ⟨o.literal, ?_⟩
      have hopen := lex_opener (hopens [])
      rw [List.append_nil, hmark, Dialect.lex] at hopen
      rw [hopen]
      rfl
    | cons e more =>
      obtain ⟨rfl, -⟩ := List.cons.inj hmore
      have hblank := hproper.solid '\n' (by simp [hmark])
      exact absurd hblank (by decide)

end Dialect

/-- A new line in front of a line stands in the text before it. -/
theorem Text.exists_break_of_append {t u v z : Text} (h : u ++ '\n' :: v = t ++ z) (hz : '\n' ∉ z) :
    ∃ y, t = u ++ '\n' :: y := by
  rcases List.append_eq_append_iff.mp h with ⟨y, rfl, hy⟩ | ⟨y, rfl, rfl⟩
  · cases y with
    | nil =>
      rw [List.nil_append] at hy
      exact absurd (by simp [← hy]) hz
    | cons e y =>
      obtain ⟨rfl, -⟩ := List.cons.inj hy
      exact ⟨y, rfl⟩
  · simp at hz

theorem Text.exists_break (lines : List Text) :
    ∃ rest, IsBreak rest ∧ ∀ line, joinLines (line :: lines) = line ++ rest := by
  by_cases h : lines = []
  · subst h
    exact ⟨[], .inl rfl, fun line => by simp⟩
  · exact ⟨'\n' :: joinLines lines, .inr ⟨_, rfl⟩, fun line => joinLines_cons h⟩

namespace Draft

variable {d : Dialect} {s : Draft} {a x z w t k ka : Text} {more : List Text} {b : Option Char}

/-- Behind the lines of code come data or nothing. -/
theorem exists_data (d : Dialect) (s : Draft) (lines : List Text) :
    ∃ data, lines = s.codeLines d lines ++ data ∧
      (data ≠ [] → (s.addAll d (s.codeLines d lines)).readsData d = true) := by
  induction lines generalizing s with
  | nil => exact ⟨[], rfl, fun h => absurd rfl h⟩
  | cons line lines ih =>
    rw [codeLines]
    split
    next hdata => exact ⟨line :: lines, rfl, fun _ => hdata⟩
    next =>
      obtain ⟨data, hlines, hdata⟩ := ih (s.add d line)
      exact ⟨data, by rw [List.cons_append, ← hlines], hdata⟩

/-- Lines on which a literal `t` stands, which starts in code at the start of a line or behind white
space. In front of it there is `a`, which gives the code `ka`; `x` is the part of the first line
from the literal on, and `z` what follows the literal on the last line. -/
structure HoldsLiteral (d : Dialect) (s : Draft) (a x : Text) (more : List Text) (ka : Text)
    (b : Option Char) (w t k z : Text) : Prop where
  proper : s.mode.Proper
  noData : s.readsData d = false
  lines : ∀ line ∈ (a ++ x) :: more, '\n' ∉ line
  place : d.Reaches s.mode none (a ++ x) ka .code b x
  blank : ∀ c, b = some c → isBlank c = true
  written : d.Writes w t k
  text : joinLines (x :: more) = t ++ z
  oneLine : '\n' ∉ z

/-- What comes of lines of which `k` is the code up to the end of a literal `t`, behind which `z`
stands. -/
structure ReadsLiteral (d : Dialect) (s : Draft) (lines : List Text) (k t z : Text) : Prop where
  /-- If all lines are read as code, the literal is passed, and what follows is read in code. -/
  passed : s.codeLines d lines = lines →
    joinLines ((s.scans d lines).map Scan.code) = k ++ (d.read .code t.getLast? z).1 ∧
      (s.addAll d lines).mode = (d.read .code t.getLast? z).2
  all : d ≠ .postgres ∨ '\n' ∉ t → s.codeLines d lines = lines
  /-- If data come before its end, the literal is never closed. -/
  unclosed : s.codeLines d lines ≠ lines →
    ∃ l, ∀ later, (s.addAll d (lines ++ later)).mode = .literal l

namespace HoldsLiteral

/-- From the literal on, the text of the lines is read as it is in code. -/
theorem lex_lines (h : s.HoldsLiteral d a x more ka b w t k z) (own : List Text) :
    d.lex s.mode none (joinLines ((a ++ x) :: own)) =
      prepend ka (d.lex .code b (joinLines (x :: own))) := by
  obtain ⟨rest, hrest, hjoin⟩ := exists_break own
  rw [hjoin, hjoin]
  exact h.place.lex h.proper (h.lines _ List.mem_cons_self) hrest

theorem passed (h : s.HoldsLiteral d a x more ka b w t k z)
    (hall : s.codeLines d ((a ++ x) :: more) = (a ++ x) :: more) :
    joinLines ((s.scans d ((a ++ x) :: more)).map Scan.code) =
        ka ++ k ++ (d.read .code t.getLast? z).1 ∧
      (s.addAll d ((a ++ x) :: more)).mode = (d.read .code t.getLast? z).2 := by
  have hlex := lex_codeLines (d := d) h.proper h.lines
  have hbehind : d.lex .code t.getLast? (z ++ []) = prepend (d.read .code t.getLast? z).1
      (d.lex (d.read .code t.getLast? z).2 none []) :=
    d.lex_append .code t.getLast? trivial h.oneLine (.inl rfl)
  rw [List.append_nil, Dialect.lex] at hbehind
  rw [hall, h.lex_lines, h.text, h.written.lex h.blank, hbehind] at hlex
  obtain ⟨hcode, hmode⟩ := Prod.mk.inj hlex
  refine ⟨hcode.symm.trans ?_, hmode.symm⟩
  simp [prepend]

theorem codeLines_of_line (h : s.HoldsLiteral d a x more ka b w t k z) (ht : '\n' ∉ t) :
    s.codeLines d ((a ++ x) :: more) = (a ++ x) :: more := by
  have hmore : more = [] := by
    by_contra hmore
    have htext := h.text
    rw [joinLines_cons hmore] at htext
    have hn : '\n' ∈ t ++ z := by simp [← htext]
    exact (List.mem_append.mp hn).elim ht h.oneLine
  simp [hmore, codeLines, h.noData]

/-- The lines of code end at a new line that stands in the literal, and there the literal is
open. -/
theorem unclosed (h : s.HoldsLiteral d a x more ka b w t k z)
    (hne : s.codeLines d ((a ++ x) :: more) ≠ (a ++ x) :: more) :
    ∃ l, ∀ later, (s.addAll d ((a ++ x) :: more ++ later)).mode = .literal l := by
  have hlex := lex_codeLines (d := d) h.proper h.lines
  obtain ⟨data, hall, hread⟩ := exists_data d s ((a ++ x) :: more)
  have hdata : data ≠ [] := by
    rintro rfl
    rw [List.append_nil] at hall
    exact hne hall.symm
  have hread := hread hdata
  have hown : s.codeLines d ((a ++ x) :: more) =
      (a ++ x) :: (s.add d (a ++ x)).codeLines d more := by
    simp [codeLines, h.noData]
  generalize (s.add d (a ++ x)).codeLines d more = own at hown
  rw [hown] at hlex hall hread
  have hmore : more = own ++ data := (List.cons.inj hall).2
  -- What follows the literal has no new line, so that the one before the data stands in it.
  obtain ⟨v, ht⟩ : ∃ v, t = joinLines (x :: own) ++ '\n' :: v := by
    refine exists_break_of_append (v := joinLines data) ?_ h.oneLine
    rw [← h.text, hmore, ← joinLines_append (List.cons_ne_nil x own) hdata]
    rfl
  obtain ⟨l, hl⟩ := h.written.open_at_break h.blank ht
  rw [h.lex_lines] at hlex
  have hmode : (s.addAll d ((a ++ x) :: own)).mode = .literal l :=
    (congrArg Prod.snd hlex).symm.trans hl
  refine ⟨l, fun later => ?_⟩
  rw [hall, List.append_assoc, addAll_append, mode_addAll_data hread, hmode]

end HoldsLiteral

/-- A literal that a dialect can be written with is passed over all its lines, unless the data of a
copy break into it. -/
theorem readsLiteral (h : s.HoldsLiteral d a x more ka b w t k z) :
    s.ReadsLiteral d ((a ++ x) :: more) (ka ++ k) t z where
  passed := h.passed
  all := by
    rintro (hd | ht)
    · apply codeLines_eq
      cases d <;> first | rfl | contradiction
    · exact h.codeLines_of_line ht
  unclosed := h.unclosed

/-- A literal over two lines, with a quotation mark, a comment's mark and a delimiter in it. -/
theorem readsLiteral_two_lines :
    let x := "nq'[it's -- ".toList
    let last := "] ;]' ;".toList
    let t := "nq'[it's -- \n] ;]'".toList
    ({} : Draft).HoldsLiteral .oracle "x ".toList x [last] "x ".toList (some ' ')
        "it's -- \n] ;".toList t "nq'[\n]'".toList " ;".toList ∧
      ({} : Draft).ReadsLiteral .oracle ["x ".toList ++ x, last]
        ("x ".toList ++ "nq'[\n]'".toList) t " ;".toList := by
  intro x last t
  have h : ({} : Draft).HoldsLiteral .oracle "x ".toList x [last] "x ".toList (some ' ')
      "it's -- \n] ;".toList t "nq'[\n]'".toList " ;".toList := by
    constructor
    case proper => trivial
    case noData => rfl
    case lines => decide
    case place => exact .token (.inCode rfl rfl rfl) (.token (.inCode rfl rfl rfl) (.here _ _ _))
    case blank =>
      rintro c ⟨⟩
      decide
    case written =>
      exact .alternative (n := ['n']) (q := 'q') (c := '[') rfl (.inr (.inl rfl)) (.inl rfl)
        (by decide) (by decide)
    case text => decide
    case oneLine => decide
  exact ⟨h, readsLiteral h⟩

/-- The data of a copy break into a literal of its condition, whose second line is then taken for
code, and the literal stays open. -/
theorem not_passed_copy :
    let a := "COPY t FROM STDIN WHERE a <> ".toList
    let t := "'x\ny'".toList
    let lines := ["COPY t FROM STDIN WHERE a <> 'x".toList, "y';".toList]
    Dialect.postgres.Writes "x\ny".toList t "'\n'".toList ∧
      joinLines lines = a ++ (t ++ [';']) ∧ Dialect.postgres.read .code none a = (a, .code) ∧
      Dialect.postgres.read .code (some '\x27') [';'] = ([';'], .code) ∧
      joinLines ((({} : Draft).scans .postgres lines).map Scan.code) ≠ a ++ "'\n';".toList ∧
      (({} : Draft).addAll .postgres lines).mode ≠ .code := by
  intro a t lines
  exact ⟨.quoted "x\ny".toList (by decide) (.inl rfl), by decide +kernel, by decide +kernel,
    by decide +kernel, by decide +kernel, by decide +kernel⟩

end Draft
end MigrationScript
