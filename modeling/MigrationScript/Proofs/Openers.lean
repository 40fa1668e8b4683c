import MigrationScript.Scan.Literal

/-!
What the dialects' opening and closing marks have in common. No mark holds white space, so none
reaches into white space or over the end of a line, and a closing mark ends with a quotation mark,
a bracket or a dollar sign.
-/
namespace MigrationScript

namespace Text

/-- Nothing, or white space first. -/
def StartsBlank (rest : Text) : Prop :=
  rest = [] ∨ ∃ c r, isBlank c = true ∧ rest = c :: r

/-- A text without white space does not reach into white space. -/
theorem isPrefixOf_append_blank {m t rest : Text} (hm : ∀ c ∈ m, isBlank c = false)
    (h : StartsBlank rest) : m.isPrefixOf (t ++ rest) = m.isPrefixOf t := by
  induction m generalizing t with
  | nil => simp
  | cons x m ih =>
    obtain ⟨hx, hm⟩ := List.forall_mem_cons.mp hm
    cases t with
    | nil =>
      rcases h with rfl | ⟨c, r, hc, rfl⟩
      · rfl
      · have : (x == c) = false := by
          rw [beq_eq_false_iff_ne]
          rintro rfl
          rw [hx] at hc
          contradiction
        simp [List.isPrefixOf, this]
    | cons y t => simp [List.isPrefixOf, ih hm]

end Text

open Text

theorem isBlank_of_isAlphanum {c : Char} (h : c.isAlphanum = true) : isBlank c = false := by
  rw [← Bool.not_eq_true]
  intro hb
  have hn : c.toNat = c.val.toNat := rfl
  delta Char.isAlphanum Char.isAlpha Char.isUpper Char.isLower Char.isDigit at h
  simp [isBlank] at hb
  simp [UInt32.le_iff_toNat_le] at h
  omega

namespace Mark

/-- The mark has no white space in it. -/
def Solid (m : Mark) : Prop :=
  ∀ c ∈ m.text, isBlank c = false

end Mark

/-- Characters that end a literal. -/
def literalEnds : Text :=
  ['\x27', '"', '\x60', ']', '$']

/-- A literal as the dialects have them. -/
structure Literal.Proper (l : Literal) : Prop where
  solid : l.closer.Solid
  last : ∃ q ∈ literalEnds, l.closer.text.getLast? = some q

/-- An opening mark as the dialects have them. -/
structure Opener.Proper (o : Opener) : Prop where
  solid : o.mark.Solid
  literal : o.literal.Proper

namespace Dialect

/-- The opening marks of a dialect and the literals that they open. -/
inductive Opens (d : Dialect) : Opener → Prop where
  | quotation {c : Char} (hc : c = '\x27' ∨ c = '"') :
      Opens d ⟨⟨c, []⟩, ⟨⟨c, []⟩, d == mysql⟩⟩
  | backtick (hd : d = mysql ∨ d = sqlite) :
      Opens d ⟨⟨'\x60', []⟩, ⟨⟨'\x60', []⟩, false⟩⟩
  | bracket (hd : d = sqlite ∨ d = tsql) : Opens d ⟨⟨'[', []⟩, ⟨⟨']', []⟩, false⟩⟩
  | alternative {q c : Char} (hd : d = oracle) (hq : q = 'q' ∨ q = 'Q')
      (hc : isBlank c = false) :
      Opens d ⟨⟨q, ['\x27', c]⟩, ⟨⟨partner c, ['\x27']⟩, false⟩⟩
  | national {n q c : Char} (hd : d = oracle) (hn : n = 'n' ∨ n = 'N') (hq : q = 'q' ∨ q = 'Q')
      (hc : isBlank c = false) :
      Opens d ⟨⟨n, [q, '\x27', c]⟩, ⟨⟨partner c, ['\x27']⟩, false⟩⟩
  | dollar {tag : Text} (hd : d = postgres) (ht : ∀ c ∈ tag, isTagChar c = true) :
      Opens d ⟨⟨'$', tag ++ ['$']⟩, ⟨⟨'$', tag ++ ['$']⟩, false⟩⟩

theorem opens_of_quote? {d : Dialect} {c : Char} {o : Opener} (h : quote? d c = some o) :
    d.Opens o := by
  unfold quote? at h
  split at h
  next hc =>
    obtain rfl := Option.some.inj h
    exact .quotation (by simpa using hc)
  next =>
    split at h
    next hc =>
      obtain ⟨hc, hd⟩ := Bool.and_eq_true_iff.mp hc
      obtain rfl : c = '\x60' := by simpa using hc
      obtain rfl := Option.some.inj h
      exact .backtick (by simpa using hd)
    next =>
      split at h
      next hc =>
        obtain ⟨hc, hd⟩ := Bool.and_eq_true_iff.mp hc
        obtain rfl : c = '[' := by simpa using hc
        obtain rfl := Option.some.inj h
        exact .bracket (by simpa using hd)
      next => contradiction

theorem quote?_of_quoted {d : Dialect} {q : Char} (hd : d ≠ .mysql) (hq : q = '\x27' ∨ q = '"') :
    quote? d q = some ⟨⟨q, []⟩, ⟨⟨q, []⟩, false⟩⟩ := by
  have hd : (d == .mysql) = false := by simpa using hd
  rcases hq with rfl | rfl <;> simp [quote?, hd]

theorem quote?_of_backticked {d : Dialect} (hd : d = .mysql ∨ d = .sqlite) :
    quote? d '\x60' = some ⟨⟨'\x60', []⟩, ⟨⟨'\x60', []⟩, false⟩⟩ := by
  rcases hd with rfl | rfl <;> rfl

theorem quote?_of_escaped {q : Char} (hq : q = '\x27' ∨ q = '"') :
    quote? .mysql q = some ⟨⟨q, []⟩, ⟨⟨q, []⟩, true⟩⟩ := by
  rcases hq with rfl | rfl <;> rfl

private theorem eq_of_alternativeQuote? {t : Text} {o : Opener}
    (h : alternativeQuote? t = some o) : ∃ q c, (q = 'q' ∨ q = 'Q') ∧ isBlank c = false ∧
      o = ⟨⟨q, ['\x27', c]⟩, ⟨⟨partner c, ['\x27']⟩, false⟩⟩ := by
  unfold alternativeQuote? at h
  split at h
  next q c r =>
    split at h
    next hc =>
      obtain ⟨hq, hb⟩ := Bool.and_eq_true_iff.mp hc
      exact ⟨q, c, by simpa using hq, by simpa using hb, (Option.some.inj h).symm⟩
    next => contradiction
  next => contradiction

theorem opens_of_nationalQuote? {t : Text} {o : Opener} (h : nationalQuote? t = some o) :
    oracle.Opens o := by
  unfold nationalQuote? at h
  split at h
  next n t =>
    split at h
    next hn =>
      obtain ⟨u, hu, rfl⟩ := Option.map_eq_some_iff.mp h
      obtain ⟨q, c, hq, hc, rfl⟩ := eq_of_alternativeQuote? hu
      exact .national rfl (by simpa using hn) hq hc
    next =>
      obtain ⟨q, c, hq, hc, rfl⟩ := eq_of_alternativeQuote? h
      exact .alternative rfl hq hc
  next => contradiction

theorem opens_of_dollarQuote? {t : Text} {o : Opener} (h : dollarQuote? t = some o) :
    postgres.Opens o := by
  unfold dollarQuote? at h
  split at h
  next t =>
    dsimp only at h
    split at h
    next =>
      obtain rfl := Option.some.inj h
      exact .dollar rfl (List.all_eq_true.mp List.all_takeWhile)
    next => contradiction
  next => contradiction

theorem opens_of_opener? {d : Dialect} {before : Option Char} {t : Text} {o : Opener}
    (h : opener? d before t = some o) : d.Opens o := by
  unfold opener? at h
  split at h
  · contradiction
  next c t =>
    dsimp only at h
    rcases Option.or_eq_some_iff.mp h with hs | ⟨-, hq⟩
    · split at hs
      · contradiction
      · split at hs
        next hd =>
          subst hd
          exact opens_of_nationalQuote? hs
        next =>
          split at hs
          next hd =>
            subst hd
            exact opens_of_dollarQuote? hs
          next => contradiction
    · exact opens_of_quote? hq

theorem isBlank_partner {c : Char} (h : isBlank c = false) : isBlank (partner c) = false := by
  unfold partner
  split
  · decide
  · split
    · decide
    · split
      · decide
      · split
        · decide
        · exact h

theorem isBlank_of_isTagChar {c : Char} (h : isTagChar c = true) : isBlank c = false := by
  rcases (by simpa [isTagChar] using h : c = '_' ∨ c.isAlphanum = true) with rfl | hc
  · decide
  · exact isBlank_of_isAlphanum hc

private theorem proper_single {c x : Char} {e : Bool} (hc : isBlank c = false)
    (hx : isBlank x = false) (hl : x ∈ literalEnds) :
    Opener.Proper ⟨⟨c, []⟩, ⟨⟨x, []⟩, e⟩⟩ where
  solid := by simpa [Mark.Solid, Mark.text] using hc
  literal := ⟨by simpa [Mark.Solid, Mark.text] using hx, x, hl, rfl⟩

/-- Every opening mark and the literal that it opens are proper. -/
theorem Opens.proper {d : Dialect} {o : Opener} (h : d.Opens o) : o.Proper := by
  have hquote : isBlank '\x27' = false := by decide
  cases h with
  | @quotation c hc =>
    rcases hc with rfl | rfl
    · exact proper_single (by decide) (by decide) (by decide)
    · exact proper_single (by decide) (by decide) (by decide)
  | backtick hd => exact proper_single (by decide) (by decide) (by decide)
  | bracket hd => exact proper_single (by decide) (by decide) (by decide)
  | @alternative q c hd hq hc =>
    have hq : isBlank q = false := by rcases hq with rfl | rfl <;> decide
    exact ⟨by simp [Mark.Solid, Mark.text, hq, hc, hquote],
      by simp [Mark.Solid, Mark.text, hquote, isBlank_partner hc], '\x27', by decide, rfl⟩
  | @national n q c hd hn hq hc =>
    have hn : isBlank n = false := by rcases hn with rfl | rfl <;> decide
    have hq : isBlank q = false := by rcases hq with rfl | rfl <;> decide
    exact ⟨by simp [Mark.Solid, Mark.text, hn, hq, hc, hquote],
      by simp [Mark.Solid, Mark.text, hquote, isBlank_partner hc], '\x27', by decide, rfl⟩
  | @dollar tag hd ht =>
    have hs : Mark.Solid ⟨'$', tag ++ ['$']⟩ := by
      intro c hc
      simp only [Mark.text, List.mem_cons, List.mem_append, List.not_mem_nil, or_false] at hc
      rcases hc with rfl | hc | rfl
      · decide
      · exact isBlank_of_isTagChar (ht c hc)
      · decide
    exact ⟨hs, hs, '$', by decide, by rw [Mark.text, ← List.cons_append, List.getLast?_concat]⟩

theorem proper_of_opener? {d : Dialect} {before : Option Char} {t : Text} {o : Opener}
    (h : opener? d before t = some o) : o.Proper :=
  (opens_of_opener? h).proper

/-- The characters that end the literals of a dialect. -/
def closes (d : Dialect) (c : Char) : Bool :=
  c == '\x27' || c == '"' || (c == '\x60' && (d == mysql || d == sqlite)) ||
    (c == ']' && (d == sqlite || d == tsql)) || (c == '$' && d == postgres)

theorem Opens.closes {d : Dialect} {o : Opener} (h : d.Opens o) :
    ∃ q, o.literal.closer.text.getLast? = some q ∧ d.closes q = true := by
  cases h with
  | @quotation c hc => rcases hc with rfl | rfl <;> exact ⟨_, rfl, by simp [Dialect.closes]⟩
  | backtick hd => exact ⟨'\x60', rfl, by simpa [Dialect.closes] using hd⟩
  | bracket hd => exact ⟨']', rfl, by simpa [Dialect.closes] using hd⟩
  | alternative => exact ⟨'\x27', rfl, by simp [Dialect.closes]⟩
  | national => exact ⟨'\x27', rfl, by simp [Dialect.closes]⟩
  | @dollar tag hd ht =>
    refine ⟨'$', ?_, by simp [Dialect.closes, hd]⟩
    rw [Mark.text, ← List.cons_append, List.getLast?_concat]

/-- No literal starts as a comment does. -/
theorem Opens.first {d : Dialect} {o : Opener} (h : d.Opens o) :
    o.mark.first ≠ '-' ∧ o.mark.first ≠ '#' ∧ o.mark.first ≠ '/' := by
  cases h with
  | quotation hc => rcases hc with rfl | rfl <;> simp
  | backtick hd => simp
  | bracket hd => simp
  | alternative hd hq hc => rcases hq with rfl | rfl <;> simp
  | national hd hn hq hc => rcases hn with rfl | rfl <;> simp
  | dollar hd ht => simp

/-- A mark that goes on behind its first characters does so with a character of a tag or with a
quotation mark, but for the one character that an alternative quote chooses. -/
theorem Opens.next {d : Dialect} {o : Opener} (h : d.Opens o) {t v : Text} {x : Char}
    (ht : t ≠ []) (hm : o.mark.text = t ++ x :: v) :
    isTagChar x = true ∨ x = '$' ∨ x = '\x27' ∨ (d = oracle ∧ ∃ q, (q = 'q' ∨ q = 'Q') ∧
      (t = [q, '\x27'] ∨ ∃ n, (n = 'n' ∨ n = 'N') ∧ t = [n, q, '\x27'])) := by
  obtain ⟨c, t, rfl⟩ := List.exists_cons_of_ne_nil ht
  cases h with
  | quotation => simp [Mark.text] at hm
  | backtick => simp [Mark.text] at hm
  | bracket => simp [Mark.text] at hm
  | @alternative q e hd hq he =>
    simp only [Mark.text, List.cons_append, List.cons.injEq] at hm
    obtain ⟨rfl, hm⟩ := hm
    rcases t with _ | ⟨y, _ | ⟨z, t⟩⟩
    · obtain ⟨rfl, -⟩ := List.cons.inj hm
      simp
    · obtain ⟨rfl, -⟩ := List.cons.inj hm
      exact .inr (.inr (.inr ⟨hd, q, hq, .inl rfl⟩))
    · simp at hm
  | @national n q e hd hn hq he =>
    simp only [Mark.text, List.cons_append, List.cons.injEq] at hm
    obtain ⟨rfl, hm⟩ := hm
    rcases t with _ | ⟨y, _ | ⟨z, _ | ⟨w, t⟩⟩⟩
    · obtain ⟨rfl, -⟩ := List.cons.inj hm
      exact .inl (by rcases hq with rfl | rfl <;> decide)
    · obtain ⟨rfl, hmore⟩ := List.cons.inj hm
      obtain ⟨rfl, -⟩ := List.cons.inj hmore
      simp
    · obtain ⟨rfl, hmore⟩ := List.cons.inj hm
      obtain ⟨rfl, -⟩ := List.cons.inj hmore
      exact .inr (.inr (.inr ⟨hd, q, hq, .inr ⟨n, hn, rfl⟩⟩))
    · simp at hm
  | @dollar tag hd htag =>
    simp only [Mark.text, List.cons_append, List.cons.injEq] at hm
    have hx : x ∈ tag ++ ['$'] := by simp [hm.2]
    rcases List.mem_append.mp hx with hx | hx
    · exact .inl (htag x hx)
    · exact .inr (.inl (List.mem_singleton.mp hx))

theorem startsLineComment_append_blank {d : Dialect} {t rest : Text} (h : StartsBlank rest) :
    d.startsLineComment (t ++ rest) = d.startsLineComment t := by
  simp only [startsLineComment]
  rw [isPrefixOf_append_blank (by decide) h, isPrefixOf_append_blank (by decide) h]

theorem startsBlockComment_append_blank {t rest : Text} (h : StartsBlank rest) :
    startsBlockComment (t ++ rest) = startsBlockComment t :=
  isPrefixOf_append_blank (by decide) h

/-- The longer forms start with characters that no literal is quoted by. -/
theorem not_special_of_quote? {d : Dialect} {c : Char} {o : Opener} (h : quote? d c = some o)
    (r : Text) : nationalQuote? (c :: r) = none ∧ dollarQuote? (c :: r) = none := by
  have hne : c ≠ 'n' ∧ c ≠ 'N' ∧ c ≠ 'q' ∧ c ≠ 'Q' ∧ c ≠ '$' := by
    refine ⟨?_, ?_, ?_, ?_, ?_⟩ <;> rintro rfl <;> simp [quote?] at h
  obtain ⟨hn, hN, hq, hQ, hd⟩ := hne
  constructor
  · simp only [nationalQuote?, hn, hN, decide_false, Bool.or_self, Bool.false_eq_true, if_false]
    unfold alternativeQuote?
    split
    next q e t he =>
      obtain ⟨rfl, -⟩ := List.cons.inj he
      simp [hq, hQ]
    next => rfl
  · simp [dollarQuote?, hd]

theorem alternativeQuote?_of_mark {o : Opener} {r : Text}
    (h : alternativeQuote? (o.mark.text ++ r) = some o) (r' : Text) :
    alternativeQuote? (o.mark.text ++ r') = some o := by
  unfold alternativeQuote? at h
  split at h
  next q c t he =>
    split at h
    next hc =>
      obtain rfl := Option.some.inj h
      simp only [Mark.text, List.cons_append, List.nil_append, alternativeQuote?, hc, if_true]
    next => contradiction
  next => contradiction

theorem nationalQuote?_of_mark {o : Opener} {r : Text}
    (h : nationalQuote? (o.mark.text ++ r) = some o) (r' : Text) :
    nationalQuote? (o.mark.text ++ r') = some o := by
  rw [Mark.text, List.cons_append, nationalQuote?] at h ⊢
  split at h
  next hn =>
    obtain ⟨u, hu, ho⟩ := Option.map_eq_some_iff.mp h
    have hm : o.mark.more = u.mark.text := by rw [← ho]
    rw [hm] at hu
    rw [if_pos hn, hm, alternativeQuote?_of_mark hu, Option.map_some, ho]
  next hn =>
    rw [if_neg hn]
    exact alternativeQuote?_of_mark (r := r) h r'

theorem dollarQuote?_of_mark {o : Opener} {r : Text}
    (h : dollarQuote? (o.mark.text ++ r) = some o) (r' : Text) :
    dollarQuote? (o.mark.text ++ r') = some o := by
  unfold dollarQuote? at h
  split at h
  next t he =>
    dsimp only at h
    split at h
    next hc =>
      obtain rfl := Option.some.inj h
      have htag : ∀ c ∈ t.takeWhile isTagChar, isTagChar c = true :=
        List.all_eq_true.mp List.all_takeWhile
      have hend : isTagChar '$' = false := by decide
      have hsplit : Mark.text ⟨'$', t.takeWhile isTagChar ++ ['$']⟩ ++ r' =
          '$' :: (t.takeWhile isTagChar ++ '$' :: r') := by simp [Mark.text]
      have htake : (t.takeWhile isTagChar ++ '$' :: r').takeWhile isTagChar =
          t.takeWhile isTagChar := by
        rw [List.takeWhile_append_of_pos htag, List.takeWhile_cons_of_neg (by simp [hend]),
          List.append_nil]
      have hdrop : (t.takeWhile isTagChar ++ '$' :: r').dropWhile isTagChar = '$' :: r' := by
        rw [List.dropWhile_append_of_pos htag, List.dropWhile_cons_of_neg (by simp [hend])]
      rw [hsplit]
      simp only [dollarQuote?, htake, hdrop]
      simp [(Bool.and_eq_true_iff.mp hc).1]
    next => contradiction
  next => contradiction

/-- Whether a mark opens a literal does not depend on what follows the mark. -/
theorem opener?_of_mark {d : Dialect} {before : Option Char} {o : Opener} {r : Text}
    (h : d.opener? before (o.mark.text ++ r) = some o) (r' : Text) :
    d.opener? before (o.mark.text ++ r') = some o := by
  have hn (h : nationalQuote? (o.mark.text ++ r) = some o) := nationalQuote?_of_mark h r'
  have hd (h : dollarQuote? (o.mark.text ++ r) = some o) := dollarQuote?_of_mark h r'
  simp only [Mark.text, List.cons_append, opener?] at h hn hd ⊢
  rcases Option.or_eq_some_iff.mp h with hs | ⟨-, hq⟩
  · split at hs
    · contradiction
    next hb =>
      rw [if_neg hb]
      split at hs
      next ho => rw [if_pos ho, hn hs, Option.some_or]
      next ho =>
        split at hs
        next hp => rw [if_neg ho, if_pos hp, hd hs, Option.some_or]
        next => contradiction
  · obtain ⟨hn', hd'⟩ := not_special_of_quote? hq (o.mark.more ++ r')
    simp [hn', hd', hq]

variable {rest : Text}

private theorem alternativeQuote?_blank {c : Char} (hc : isBlank c = true) (r : Text) :
    alternativeQuote? (c :: r) = none := by
  unfold alternativeQuote?
  split
  next q e t he =>
    obtain ⟨rfl, -⟩ := List.cons.inj he
    have hq : c ≠ 'q' ∧ c ≠ 'Q' := by
      constructor <;> rintro rfl <;> revert hc <;> decide
    simp [hq.1, hq.2]
  next => rfl

theorem alternativeQuote?_append_blank (t : Text) (h : StartsBlank rest) :
    alternativeQuote? (t ++ rest) = alternativeQuote? t := by
  rcases h with rfl | ⟨c, r, hc, rfl⟩
  · rw [List.append_nil]
  match t with
  | [] => exact alternativeQuote?_blank hc r
  | [q] =>
    have : c ≠ '\x27' := by
      rintro rfl
      revert hc
      decide
    simp [alternativeQuote?, this]
  | [q, x] =>
    by_cases hx : x = '\x27'
    · subst hx
      simp [alternativeQuote?, hc]
    · simp [alternativeQuote?, hx]
  | q :: x :: c :: t =>
    by_cases hx : x = '\x27'
    · subst hx
      rfl
    · simp [alternativeQuote?, hx]

theorem nationalQuote?_append_blank {t : Text} (ht : t ≠ []) (h : StartsBlank rest) :
    nationalQuote? (t ++ rest) = nationalQuote? t := by
  cases t with
  | nil => contradiction
  | cons n t =>
    have hn := alternativeQuote?_append_blank (n :: t) h
    have ht := alternativeQuote?_append_blank t h
    simp only [List.cons_append] at hn
    simp only [List.cons_append, nationalQuote?, hn, ht]

/-- Nothing, or a character first that is in no tag and ends none. -/
def EndsTag (rest : Text) : Prop :=
  rest = [] ∨ ∃ c r, isTagChar c = false ∧ c ≠ '$' ∧ rest = c :: r

theorem endsTag_of_blank (h : StartsBlank rest) : EndsTag rest := by
  rcases h with rfl | ⟨c, r, hc, rfl⟩
  · exact .inl rfl
  · refine .inr ⟨c, r, ?_, ?_, rfl⟩
    · rw [← Bool.not_eq_true]
      intro ht
      rw [isBlank_of_isTagChar ht] at hc
      contradiction
    · rintro rfl
      revert hc
      decide

private theorem span_append (t : Text) (h : EndsTag rest) :
    (t ++ rest).takeWhile isTagChar = t.takeWhile isTagChar ∧
      (t ++ rest).dropWhile isTagChar = t.dropWhile isTagChar ++ rest := by
  induction t with
  | nil =>
    rcases h with rfl | ⟨c, r, hc, -, rfl⟩
    · simp
    · simp [hc]
  | cons c t ih =>
    by_cases hc : isTagChar c = true
    · simp [hc, ih]
    · simp [hc]

/-- A tag goes no further than its characters. -/
theorem dollarQuote?_append {t : Text} (ht : t ≠ []) (h : EndsTag rest) :
    dollarQuote? (t ++ rest) = dollarQuote? t := by
  cases t with
  | nil => contradiction
  | cons c t =>
    by_cases hc : c = '$'
    · obtain ⟨htake, hdrop⟩ := span_append t h
      have hhead : ((t.dropWhile isTagChar ++ rest).head? == some '$') =
          ((t.dropWhile isTagChar).head? == some '$') := by
        cases t.dropWhile isTagChar with
        | nil => rcases h with rfl | ⟨c, r, -, hd, rfl⟩ <;> simp [*]
        | cons c t => rfl
      subst hc
      simp only [List.cons_append, dollarQuote?, htake, hdrop, hhead]
    · simp [dollarQuote?, hc]

/-- White space opens no literal. -/
theorem opener?_blank (d : Dialect) (before : Option Char) (h : StartsBlank rest) :
    d.opener? before rest = none := by
  cases ho : d.opener? before rest with
  | none => rfl
  | some o =>
    obtain ⟨r, hr⟩ := eq_append_of_opener? ho
    rcases h with rfl | ⟨c, t, hc, rfl⟩
    · contradiction
    · obtain ⟨rfl, -⟩ := List.cons.inj hr
      have hs := (proper_of_opener? ho).solid _ List.mem_cons_self
      rw [hc] at hs
      contradiction

/-- White space starts no comment and no literal. -/
theorem starts_blank (d : Dialect) (before : Option Char) (h : StartsBlank rest) :
    d.startsLineComment rest = false ∧ startsBlockComment rest = false ∧
      d.opener? before rest = none := by
  refine ⟨?_, ?_, opener?_blank d before h⟩
  · exact (startsLineComment_append_blank (t := []) h).trans (by simp [startsLineComment])
  · exact startsBlockComment_append_blank (t := []) h

/-- An opening mark is recognised before the white space that follows. -/
theorem opener?_append_blank (d : Dialect) (before : Option Char) (t : Text)
    (h : StartsBlank rest) : d.opener? before (t ++ rest) = d.opener? before t := by
  cases t with
  | nil => exact opener?_blank d before h
  | cons c t =>
    have hn := nationalQuote?_append_blank (List.cons_ne_nil c t) h
    have hd := dollarQuote?_append (List.cons_ne_nil c t) (endsTag_of_blank h)
    simp only [List.cons_append] at hn hd
    simp only [List.cons_append, opener?, hn, hd]

end Dialect
end MigrationScript
