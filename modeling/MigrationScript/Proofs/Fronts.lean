import Mathlib.Data.List.Induction
import MigrationScript.Proofs.Comments

/-!
Readings of texts and of their beginnings. A token of a longer text is one of the shorter text too,
or it straddles the place where the shorter one ends. From this follows what may be added to a text
or taken from it without changing the mode that it leaves.
-/
namespace MigrationScript

open Text

/-- Comments and white space start with few characters. -/
theorem OnlyComments.first {d : Dialect} {c : Char} {t : Text} {o : Bool}
    (h : OnlyComments d false (c :: t) o) :
    isBlank c = true ∨ c = '-' ∨ c = '#' ∨ c = '/' := by
  cases h with
  | blank hc rest => exact .inl hc
  | lineComment hl =>
    simp only [Dialect.startsLineComment, List.isPrefixOf, Bool.or_eq_true, Bool.and_eq_true,
      beq_iff_eq] at hl
    rcases hl with ⟨rfl, -⟩ | ⟨-, rfl, -⟩
    · exact .inr (.inl rfl)
    · exact .inr (.inr (.inl rfl))
  | commentStart rest => exact .inr (.inr (.inr rfl))

/-- No mark goes on with a character that comments and white space start with. -/
theorem Dialect.Opens.not_goesOn {d : Dialect} {o : Opener} (h : d.Opens o) {c : Char}
    {t v more : Text} {e : Bool} (hc : OnlyComments d false (c :: v) e) (ht : t ≠ [])
    (hm : o.mark.text = t ++ c :: more) :
    d = .oracle ∧ ∃ q, (q = 'q' ∨ q = 'Q') ∧
      (t = [q, '\x27'] ∨ ∃ n, (n = 'n' ∨ n = 'N') ∧ t = [n, q, '\x27']) := by
  have hsolid : isBlank c = false := h.proper.solid c (by rw [hm]; simp)
  have hfirst : c = '-' ∨ c = '#' ∨ c = '/' := by
    rcases hc.first with hb | hc
    · rw [hsolid] at hb
      contradiction
    · exact hc
  rcases h.next ht hm with htag | rfl | rfl | hq
  · have hno : isTagChar c = false := by rcases hfirst with rfl | rfl | rfl <;> decide
    rw [htag] at hno
    contradiction
  · simp at hfirst
  · simp at hfirst
  · exact hq

namespace Dialect

variable {d : Dialect} {m m' : Mode} {b b' : Option Char} {t v k r : Text} {c : Char} {l : Literal}

theorem startsLineComment_of_append (h : d.startsLineComment (t ++ v) = false) :
    d.startsLineComment t = false := by
  rw [← Bool.not_eq_true]
  intro ht
  rw [startsLineComment_append ht] at h
  contradiction

theorem isPrefixOf_of_append {p : Text} (h : p.isPrefixOf (t ++ v) = false) :
    p.isPrefixOf t = false := by
  rw [← Bool.not_eq_true, List.isPrefixOf_iff_prefix] at h ⊢
  exact fun ht => h (ht.trans (List.prefix_append t v))

theorem opener?_of_append (h : d.opener? b (t ++ v) = none) : d.opener? b t = none := by
  cases ho : d.opener? b t with
  | none => rfl
  | some o =>
    obtain ⟨r, rfl⟩ := eq_append_of_opener? ho
    rw [List.append_assoc, opener?_of_mark ho] at h
    contradiction

/-- A token that ends inside a beginning of the text is a token of that beginning. -/
theorem Token.of_append (h : d.Token m b (t ++ v) k m' b' (r ++ v)) :
    d.Token m b t k m' b' r := by
  generalize hw : t ++ v = w at h
  generalize hx : r ++ v = x at h
  cases h with
  | commentEnd x =>
    subst hx
    obtain rfl : t = '*' :: '/' :: r := List.append_cancel_right hw
    exact .commentEnd r
  | @inComment b c x no =>
    subst hx
    obtain rfl : t = c :: r := List.append_cancel_right hw
    exact .inComment (isPrefixOf_of_append (t := c :: r) no)
  | @hiddenChar l b c e x hides =>
    subst hx
    obtain rfl : t = c :: e :: r := List.append_cancel_right hw
    exact .hiddenChar e r hides
  | @lastBackslash l b c hides =>
    obtain ⟨rfl, rfl⟩ := List.append_eq_nil_iff.mp hx
    rw [List.append_nil] at hw
    rw [hw]
    exact .lastBackslash hides
  | literalEnd x shows =>
    rw [← hx, ← List.append_assoc] at hw
    obtain rfl := List.append_cancel_right hw
    exact .literalEnd r shows
  | @inLiteral l b c x shows no =>
    subst hx
    obtain rfl : t = c :: r := List.append_cancel_right hw
    exact .inLiteral shows (isPrefixOf_of_append (t := c :: r) no)
  | @lineComment b c x line =>
    obtain ⟨rfl, rfl⟩ := List.append_eq_nil_iff.mp hx
    rw [List.append_nil] at hw
    rw [hw]
    exact .lineComment line
  | commentStart x =>
    subst hx
    obtain rfl : t = '/' :: '*' :: r := List.append_cancel_right hw
    exact .commentStart r
  | @literalStart b o x noLine noBlock opens =>
    rw [← hx, ← List.append_assoc] at hw
    obtain rfl := List.append_cancel_right hw
    rw [← hx, ← List.append_assoc] at noLine noBlock
    exact .literalStart r (startsLineComment_of_append noLine) (isPrefixOf_of_append noBlock)
      (opener?_of_mark opens r)
  | @inCode b c x noLine noBlock noOpener =>
    subst hx
    obtain rfl : t = c :: r := List.append_cancel_right hw
    exact .inCode (startsLineComment_of_append (t := c :: r) noLine)
      (isPrefixOf_of_append (t := c :: r) noBlock) (opener?_of_append (t := c :: r) noOpener)

/-- What stands first in `t ++ v` goes on from `t` into `v`. -/
inductive Straddles (d : Dialect) : Mode → Option Char → Text → Text → Prop where
  | commentEnd {b : Option Char} (r : Text) : Straddles d .comment b ['*'] ('/' :: r)
  | hiddenChar {l : Literal} {b : Option Char} {c : Char} (e : Char) (r : Text)
      (hides : (l.escapes && c == '\\') = true) : Straddles d (.literal l) b [c] (e :: r)
  | literalEnd {l : Literal} {b : Option Char} {t more : Text} (r : Text) (started : t ≠ [])
      (goesOn : more ≠ []) (closer : l.closer.text = t ++ more) :
      Straddles d (.literal l) b t (more ++ r)
  | lineComment {b : Option Char} {t v : Text} (line : d.startsLineComment (t ++ v) = true) :
      Straddles d .code b t v
  | commentStart {b : Option Char} (r : Text) : Straddles d .code b ['/'] ('*' :: r)
  | literalStart {o : Opener} {b : Option Char} {t more : Text} (r : Text) (started : t ≠ [])
      (goesOn : more ≠ []) (opens : d.Opens o) (mark : o.mark.text = t ++ more)
      (token : d.Token .code b (t ++ (more ++ r)) (t ++ more) (.literal o.literal)
        (t ++ more).getLast? r) :
      Straddles d .code b t (more ++ r)

/-- A text with a front and a rest, cut in front of the end of that front or not. -/
private theorem cut_front {u x : Text} (h : u ++ x = t ++ v) :
    (∃ r, t = u ++ r ∧ x = r ++ v) ∨ ∃ more, more ≠ [] ∧ u = t ++ more ∧ v = more ++ x := by
  rcases List.append_eq_append_iff.mp h with ⟨r, ht, hx⟩ | ⟨more, hu, hv⟩
  · exact .inl ⟨r, ht, hx⟩
  · by_cases hm : more = []
    · subst hm
      exact .inl ⟨[], by simpa using hu.symm, by simpa using hv.symm⟩
    · exact .inr ⟨more, hm, hu, hv⟩

private theorem cut_pair {a e : Char} {more : Text} (h : [a, e] = t ++ more) (ht : t ≠ [])
    (hm : more ≠ []) : t = [a] ∧ more = [e] := by
  obtain ⟨x, t, rfl⟩ := List.exists_cons_of_ne_nil ht
  obtain ⟨y, more, rfl⟩ := List.exists_cons_of_ne_nil hm
  cases t with
  | nil =>
    obtain ⟨rfl, hmore⟩ := List.cons.inj h
    exact ⟨rfl, hmore.symm⟩
  | cons z t => simp at h

private theorem straddles_of_token {w x : Text} (h : d.Token m b w k m' b' x) (hw : w = t ++ v)
    (ht : t ≠ []) : (∃ r, x = r ++ v) ∨ d.Straddles m b t v := by
  have single {c : Char} {x : Text} (hw : c :: x = t ++ v) : ∃ r, x = r ++ v := by
    obtain ⟨e, t, rfl⟩ := List.exists_cons_of_ne_nil ht
    exact ⟨t, (List.cons.inj hw).2⟩
  cases h with
  | commentEnd x =>
    rcases cut_front (u := ['*', '/']) hw with ⟨r, -, hx⟩ | ⟨more, hm, hu, rfl⟩
    · exact .inl ⟨r, hx⟩
    · obtain ⟨rfl, rfl⟩ := cut_pair hu ht hm
      exact .inr (.commentEnd x)
  | inComment no => exact .inl (single hw)
  | @hiddenChar l b c e x hides =>
    rcases cut_front (u := [c, e]) hw with ⟨r, -, hx⟩ | ⟨more, hm, hu, rfl⟩
    · exact .inl ⟨r, hx⟩
    · obtain ⟨rfl, rfl⟩ := cut_pair hu ht hm
      exact .inr (.hiddenChar e x hides)
  | lastBackslash hides => exact .inl (single hw)
  | literalEnd x shows =>
    rcases cut_front hw with ⟨r, -, hx⟩ | ⟨more, hm, hu, rfl⟩
    · exact .inl ⟨r, hx⟩
    · exact .inr (.literalEnd x ht hm hu)
  | inLiteral shows no => exact .inl (single hw)
  | lineComment line =>
    rw [hw] at line
    exact .inr (.lineComment line)
  | commentStart x =>
    rcases cut_front (u := ['/', '*']) hw with ⟨r, -, hx⟩ | ⟨more, hm, hu, rfl⟩
    · exact .inl ⟨r, hx⟩
    · obtain ⟨rfl, rfl⟩ := cut_pair hu ht hm
      exact .inr (.commentStart x)
  | @literalStart b o x noLine noBlock opens =>
    rcases cut_front hw with ⟨r, -, hx⟩ | ⟨more, hm, hu, rfl⟩
    · exact .inl ⟨r, hx⟩
    · have token := Token.literalStart x noLine noBlock opens
      rw [hw, hu] at token
      exact .inr (.literalStart x ht hm (opens_of_opener? opens) hu token)
  | inCode noLine noBlock noOpener => exact .inl (single hw)

/-- What stands first in a longer text stands first in its beginning too, or straddles the end of
the beginning. -/
theorem token_or_straddles (d : Dialect) (m : Mode) (b : Option Char) (ht : t ≠ []) (v : Text) :
    (∃ k m' b' r, d.Token m b t k m' b' r ∧ d.Token m b (t ++ v) k m' b' (r ++ v)) ∨
      d.Straddles m b t v := by
  obtain ⟨k, m', b', x, h⟩ := d.exists_token m b (List.append_ne_nil_of_left_ne_nil ht v)
  rcases straddles_of_token h rfl ht with ⟨r, rfl⟩ | hs
  · exact .inl ⟨k, m', b', r, h.of_append, h⟩
  · exact .inr hs

/-- An induction over the tokens of a text that goes on with `v`. -/
theorem append_induction (d : Dialect) (v : Text) {motive : Mode → Option Char → Text → Prop}
    (nil : ∀ m b, motive m b [])
    (token : ∀ {m b t k m' b' r}, d.Token m b t k m' b' r →
      d.Token m b (t ++ v) k m' b' (r ++ v) → motive m' b' r → motive m b t)
    (straddles : ∀ {m b t}, t ≠ [] → d.Straddles m b t v → motive m b t)
    (m : Mode) (b : Option Char) (t : Text) : motive m b t := by
  match t with
  | [] => exact nil m b
  | c :: t =>
    rcases d.token_or_straddles m b (List.cons_ne_nil c t) v with ⟨k, m', b', r, h, hv⟩ | hs
    · exact token h hv (append_induction d v nil token straddles m' b' r)
    · exact straddles (List.cons_ne_nil c t) hs
termination_by t.length
decreasing_by exact h.suffix.2

private theorem eq_of_goesOn {more : Text} (h : [c] = more ++ r) (hm : more ≠ []) :
    more = [c] ∧ r = [] := by
  obtain ⟨x, more, rfl⟩ := List.exists_cons_of_ne_nil hm
  obtain ⟨rfl, hr⟩ := List.cons.inj h
  obtain ⟨rfl, rfl⟩ := List.append_eq_nil_iff.mp hr.symm
  exact ⟨rfl, rfl⟩

/-- White space is taken as a token that changes no mode. -/
theorem read_blank (hm : m.Proper) (hc : isBlank c = true) : (d.read m b [c]).2 = m := by
  have hblank : StartsBlank [c] := .inr ⟨c, [], hc, rfl⟩
  cases m with
  | code => rw [read_token (.of_blank hc), read_nil]; rfl
  | comment =>
    rw [read_token (.inComment (isPrefixOf_append_blank (t := []) (by decide) hblank)), read_nil]
    rfl
  | literal l =>
    have hne : (l.escapes && c == '\\') = false := by
      have : c ≠ '\\' := by
        rintro rfl
        revert hc
        decide
      simp [this]
    have hno : l.closer.text.isPrefixOf [c] = false :=
      isPrefixOf_append_blank (t := []) hm.solid hblank
    rw [read_token (.inLiteral hne hno), read_nil]
    rfl

/-- A line comment that starts in a text, or at its end, leaves code. -/
private theorem code_of_lineComment (ht : t ≠ []) (h : d.startsLineComment (t ++ v) = true) :
    (d.read .code b t).2 = .code := by
  obtain ⟨c, t, rfl⟩ := List.exists_cons_of_ne_nil ht
  by_cases hl : d.startsLineComment (c :: t) = true
  · rw [read_token (.lineComment hl), read_nil]
    rfl
  obtain ⟨rfl, rfl⟩ : c = '-' ∧ t = [] := by
    cases t with
    | nil =>
      simp only [startsLineComment, List.cons_append, List.isPrefixOf, Bool.or_eq_true,
        Bool.and_eq_true, beq_iff_eq] at h hl
      rcases h with ⟨rfl, -⟩ | h
      · exact ⟨rfl, rfl⟩
      · exact absurd (.inr h) hl
    | cons e t => exact absurd h hl
  rw [read_token (.inCode (eq_false_of_ne_true hl) rfl ?_), read_nil]
  · rfl
  cases ho : d.opener? b ['-'] with
  | none => rfl
  | some o =>
    obtain ⟨r, hr⟩ := eq_append_of_opener? ho
    exact absurd (List.cons.inj hr).1.symm (opens_of_opener? ho).first.1

/-- White space at the end of a text does not change the mode that the text leaves. -/
theorem mode_append_blank (hm : m.Proper) (hc : isBlank c = true) :
    (d.read m b (t ++ [c])).2 = (d.read m b t).2 := by
  induction m, b, t using append_induction d [c] with
  | nil m b => rw [List.nil_append, read_blank hm hc, read_nil]
  | token h hv ih =>
    rw [read_token h, read_token hv]
    exact ih (h.proper hm)
  | straddles ht hs =>
    generalize hw : [c] = w at hs
    cases hs with
    | commentEnd r =>
      obtain ⟨rfl, -⟩ := List.cons.inj hw
      contradiction
    | hiddenChar e r hides =>
      obtain ⟨rfl, rfl⟩ := List.cons.inj hw
      rw [List.singleton_append, read_token (.hiddenChar c [] hides),
        read_token (.lastBackslash hides), read_nil, read_nil]
    | literalEnd r started goesOn closer =>
      obtain ⟨rfl, rfl⟩ := eq_of_goesOn hw goesOn
      have hs := hm.solid c (by simp [closer])
      rw [hc] at hs
      contradiction
    | lineComment line =>
      subst hw
      rw [code_of_lineComment ht line,
        code_of_lineComment (v := []) (List.append_ne_nil_of_left_ne_nil ht _)
          (by rwa [List.append_nil])]
    | commentStart r =>
      obtain ⟨rfl, -⟩ := List.cons.inj hw
      contradiction
    | literalStart r started goesOn opens mark token =>
      obtain ⟨rfl, rfl⟩ := eq_of_goesOn hw goesOn
      have hs := opens.proper.solid c (by simp [mark])
      rw [hc] at hs
      contradiction

theorem mode_append_blanks {w : Text} (hm : m.Proper)
    (hw : ∀ c ∈ w, isBlank c = true) : (d.read m b (t ++ w)).2 = (d.read m b t).2 := by
  induction w using List.reverseRecOn with
  | nil => rw [List.append_nil]
  | append_singleton w c ih =>
    rw [← List.append_assoc, mode_append_blank hm (hw c (by simp)),
      ih fun e he => hw e (List.mem_append_left _ he)]

theorem mode_trimEnd (hm : m.Proper) (t : Text) :
    (d.read m b (trimEnd t)).2 = (d.read m b t).2 := by
  obtain ⟨w, ht, hw⟩ := dropEnd_append isBlank t
  rw [← mode_append_blanks hm hw]
  exact congrArg (fun t => (d.read m b t).2) ht.symm

/-- A literal that is left was closed by a mark of the text. -/
private theorem closer_length_le (h : (d.read (.literal l) b t).2 = .code) :
    l.closer.text.length ≤ t.length := by
  cases hn : l.close? t with
  | none =>
    rw [read_literal_none hn] at h
    contradiction
  | some n =>
    obtain ⟨r, hr⟩ := Literal.drop_of_close? hn
    have hlen := congrArg List.length hr
    rw [List.length_drop, List.length_append] at hlen
    omega

/-- A quotation mark alone opens a literal. -/
private theorem read_quotation (d : Dialect) (b : Option Char) :
    (d.read .code b ['\x27']).2 ≠ .code := by
  have hopen : d.opener? b ['\x27'] = some ⟨⟨'\x27', []⟩, ⟨'\x27', []⟩, d == mysql⟩ := by
    simp [opener?, nationalQuote?, alternativeQuote?, dollarQuote?, quote?]
  have hline : d.startsLineComment ['\x27'] = false := by
    simp [startsLineComment, List.isPrefixOf]
  intro hcode
  have htoken : d.Token .code b ['\x27'] ['\x27'] (.literal ⟨⟨'\x27', []⟩, d == mysql⟩)
      (some '\x27') [] :=
    .literalStart (o := ⟨⟨'\x27', []⟩, ⟨'\x27', []⟩, d == mysql⟩) [] hline rfl hopen
  rw [read_token htoken, read_nil] at hcode
  contradiction

/-- The beginning of an alternative quote, up to the quotation mark, opens a literal. -/
private theorem read_quote_front {q : Char} (hq : q = 'q' ∨ q = 'Q') (b : Option Char) :
    (oracle.read .code b [q, '\x27']).2 ≠ .code := by
  have hopen : oracle.opener? b [q, '\x27'] = none := by
    rcases hq with rfl | rfl <;> simp [opener?, nationalQuote?, alternativeQuote?, quote?]
  rw [read_token (.inCode ?_ ?_ hopen)]
  · exact read_quotation oracle (some q)
  · rcases hq with rfl | rfl <;> rfl
  · rcases hq with rfl | rfl <;> rfl

private theorem read_national_front {n q : Char} (hn : n = 'n' ∨ n = 'N') (hq : q = 'q' ∨ q = 'Q')
    (b : Option Char) : (oracle.read .code b [n, q, '\x27']).2 ≠ .code := by
  have hopen : oracle.opener? b [n, q, '\x27'] = none := by
    rcases hn with rfl | rfl <;> simp [opener?, nationalQuote?, alternativeQuote?, quote?]
  rw [read_token (.inCode ?_ ?_ hopen)]
  · exact read_quote_front hq (some n)
  · rcases hn with rfl | rfl <;> rfl
  · rcases hn with rfl | rfl <;> rfl

/-- Comments and white space behind a text that leaves code leave code too. -/
theorem code_append (hv : OnlyComments d false v false) (h : (d.read m b t).2 = .code) :
    (d.read m b (t ++ v)).2 = .code := by
  induction m, b, t using append_induction d v with
  | nil m b =>
    rw [read_nil] at h
    obtain rfl : m = .code := h
    exact (hv.read b).2
  | token ht hv ih =>
    rw [read_token ht] at h
    rw [read_token hv]
    exact ih h
  | straddles ht hs =>
    cases hs with
    | @commentEnd b r =>
      rw [read_token (.inComment (c := '*') (t := []) rfl), read_nil] at h
      contradiction
    | hiddenChar e r hides =>
      rw [read_token (.lastBackslash hides), read_nil] at h
      contradiction
    | literalEnd r started goesOn closer =>
      have hle := closer_length_le h
      have hpos := List.length_pos_iff.mpr goesOn
      rw [closer, List.length_append] at hle
      omega
    | lineComment line =>
      exact code_of_lineComment (v := []) (List.append_ne_nil_of_left_ne_nil ht v)
        (by rwa [List.append_nil])
    | commentStart r => exact absurd hv.first (by decide)
    | literalStart r started goesOn opens mark token =>
      obtain ⟨c, more, rfl⟩ := List.exists_cons_of_ne_nil goesOn
      obtain ⟨rfl, q, hq, rfl | ⟨n, hn, rfl⟩⟩ := opens.not_goesOn hv started mark
      · exact absurd h (read_quote_front hq _)
      · exact absurd h (read_national_front hn hq _)

/-- A character that ends no comment and no literal may be taken from the end of a text that leaves
code. -/
theorem code_of_concat (hm : ∀ l, m = .literal l → d.HasLiteral l) (hslash : c ≠ '/')
    (hc : d.closes c = false) (h : (d.read m b (t ++ [c])).2 = .code) :
    (d.read m b t).2 = .code := by
  have hcloser {l : Literal} (hl : d.HasLiteral l) {t : Text} (ht : l.closer.text = t ++ [c]) :
      False := by
    obtain ⟨o, ho, rfl⟩ := hl
    obtain ⟨q, hq, hcloses⟩ := ho.closes
    rw [ht, List.getLast?_concat, Option.some.injEq] at hq
    rw [← hq, hc] at hcloses
    contradiction
  induction m, b, t using append_induction d [c] with
  | nil m b =>
    rw [read_nil]
    cases m with
    | code => rfl
    | comment =>
      rw [List.nil_append, read_token (.inComment (by simp [List.isPrefixOf])), read_nil] at h
      contradiction
    | literal l =>
      rw [List.nil_append] at h
      cases hn : l.close? [c] with
      | none =>
        rw [read_literal_none hn] at h
        contradiction
      | some n =>
        obtain ⟨r, hr⟩ := Literal.drop_of_close? hn
        cases n with
        | zero =>
          obtain ⟨hcl, -⟩ := eq_of_goesOn hr (List.cons_ne_nil _ _)
          exact (hcloser (t := []) (hm l rfl) hcl).elim
        | succ n => simp [Mark.text] at hr
  | token ht hv ih =>
    rw [read_token hv] at h
    rw [read_token ht]
    refine ih ?_ h
    intro l hl
    rcases ht.literal hl with hl | hl
    · exact hm l hl
    · exact hl
  | straddles ht hs =>
    generalize hw : [c] = w at hs
    cases hs with
    | commentEnd r => exact absurd (List.cons.inj hw).1 hslash
    | hiddenChar e r hides =>
      obtain ⟨rfl, rfl⟩ := List.cons.inj hw
      rw [List.singleton_append, read_token (.hiddenChar c [] hides), read_nil] at h
      contradiction
    | literalEnd r started goesOn closer =>
      obtain ⟨rfl, rfl⟩ := eq_of_goesOn hw goesOn
      exact (hcloser (hm _ rfl) closer).elim
    | lineComment line => exact code_of_lineComment ht line
    | commentStart r =>
      obtain ⟨rfl, rfl⟩ := List.cons.inj hw
      rw [List.singleton_append, read_token (.commentStart []), read_nil] at h
      contradiction
    | literalStart r started goesOn opens mark token =>
      obtain ⟨rfl, rfl⟩ := eq_of_goesOn hw goesOn
      rw [List.append_nil] at token
      rw [read_token token, read_nil] at h
      contradiction

end Dialect
end MigrationScript
