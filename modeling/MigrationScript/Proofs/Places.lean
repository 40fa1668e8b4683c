import MigrationScript.Proofs.Fronts
import MigrationScript.Proofs.WholeText

/-!
Places in a text that its reading comes to. Behind such a place the reading does not depend on how
it came there, and in front of it not on what follows.
-/
namespace MigrationScript

open Text

/-- A mark starts in the front `x` of the text `x ++ v`; it may reach over the end of that front. -/
def Text.StartsIn (mark x v : Text) : Prop :=
  ∃ y w, x = y ++ w ∧ w ≠ [] ∧ mark <+: w ++ v

namespace Text

variable {mark x v : Text} {c : Char}

theorem not_startsIn_nil : ¬ StartsIn mark [] v := by
  rintro ⟨y, w, h, hw, -⟩
  exact hw (List.append_eq_nil_iff.mp h.symm).2

theorem not_startsIn_of_not_mem (h : c ∉ x) : ¬ StartsIn (c :: mark) x v := by
  rintro ⟨y, w, rfl, hw, hp⟩
  obtain ⟨e, w, rfl⟩ := List.exists_cons_of_ne_nil hw
  obtain ⟨rfl, -⟩ := List.cons_prefix_cons.mp hp
  exact h (by simp)

theorem startsIn_cons :
    StartsIn mark (c :: x) v ↔ mark <+: c :: (x ++ v) ∨ StartsIn mark x v := by
  constructor
  · rintro ⟨y, w, h, hw, hp⟩
    rcases List.cons_eq_append_iff.mp h with ⟨-, rfl⟩ | ⟨y, -, rfl⟩
    · exact .inl hp
    · exact .inr ⟨y, w, rfl, hw, hp⟩
  · rintro (hp | ⟨y, w, rfl, hw, hp⟩)
    · exact ⟨[], c :: x, rfl, List.cons_ne_nil c x, hp⟩
    · exact ⟨c :: y, w, rfl, hw, hp⟩

instance decidableStartsIn (mark v : Text) : (x : Text) → Decidable (StartsIn mark x v)
  | [] => isFalse not_startsIn_nil
  | _ :: x =>
    have := decidableStartsIn mark v x
    decidable_of_iff _ startsIn_cons.symm

/-- A mark that starts in no place in front of itself starts in none whatever stands behind it. -/
theorem not_startsIn_append (h : ¬ StartsIn mark x mark) (v : Text) :
    ¬ StartsIn mark x (mark ++ v) := by
  rintro ⟨y, w, rfl, hw, hp⟩
  have hfront : w ++ mark <+: w ++ (mark ++ v) := by
    rw [← List.append_assoc]
    exact List.prefix_append _ _
  have hlength : mark.length ≤ (w ++ mark).length := by
    rw [List.length_append]
    omega
  exact h ⟨y, w, rfl, hw, List.prefix_of_prefix_length_le hp hfront hlength⟩

theorem not_startsIn_cons (h : ¬ StartsIn mark (c :: x) v) :
    mark.isPrefixOf (c :: (x ++ v)) = false ∧ ¬ StartsIn mark x v := by
  rw [startsIn_cons, not_or] at h
  rwa [← Bool.not_eq_true, List.isPrefixOf_iff_prefix]

end Text

/-- The reading of a text passes some tokens and comes to the rest of it: the code that the tokens
give, and the mode, the character and the text with which the reading goes on. -/
inductive Dialect.Reaches (d : Dialect) :
    Mode → Option Char → Text → Text → Mode → Option Char → Text → Prop where
  | here (m : Mode) (b : Option Char) (t : Text) : Reaches d m b t [] m b t
  | token {m m' m'' : Mode} {b b' b'' : Option Char} {t k r k' u : Text}
      (first : d.Token m b t k m' b' r) (more : Reaches d m' b' r k' m'' b'' u) :
      Reaches d m b t (k ++ k') m'' b'' u

namespace Dialect

variable {d : Dialect} {m m' : Mode} {b b' : Option Char} {t k r v : Text} {o : Opener}
  {l : Literal} {c : Char}

theorem Token.reaches (h : d.Token m b t k m' b' r) : d.Reaches m b t k m' b' r := by
  rw [← List.append_nil k]
  exact .token h (.here m' b' r)

theorem Reaches.trans {m'' : Mode} {b'' : Option Char} {k' u : Text}
    (h : d.Reaches m b t k m' b' r) (h' : d.Reaches m' b' r k' m'' b'' u) :
    d.Reaches m b t (k ++ k') m'' b'' u := by
  induction h with
  | here => exact h'
  | token first more ih =>
    rw [List.append_assoc]
    exact .token first (ih h')

theorem Reaches.suffix (h : d.Reaches m b t k m' b' r) : r <:+ t := by
  induction h with
  | here => exact List.suffix_rfl
  | token first more ih => exact ih.trans first.suffix.1

/-- What is left at a place is read as if nothing stood in front of it. -/
theorem Reaches.read (h : d.Reaches m b t k m' b' r) :
    d.read m b t = prepend k (d.read m' b' r) := by
  induction h with
  | here => rfl
  | token first more ih => rw [read_token first, ih, prepend_prepend]

/-- A place inside a beginning of a text is reached in that beginning, too. -/
theorem Reaches.of_append (h : d.Reaches m b (t ++ v) k m' b' (r ++ v)) :
    d.Reaches m b t k m' b' r := by
  generalize hw : t ++ v = w at h
  generalize hx : r ++ v = x at h
  induction h generalizing t with
  | here =>
    obtain rfl := List.append_cancel_right (hw.trans hx.symm)
    exact .here _ _ _
  | @token m m₁ m₂ b b₁ b₂ w k y k' x first more ih =>
    obtain ⟨y, rfl⟩ := more.suffix
    rw [← hw, ← hx, ← List.append_assoc] at first
    exact .token first.of_append (ih (by rw [List.append_assoc, hx]) hx)

/-- The text in front of a place gives the code that was passed and leaves the mode found there. -/
theorem Reaches.read_front (h : d.Reaches m b (t ++ v) k m' b' v) : d.read m b t = (k, m') := by
  have hfront : d.Reaches m b t k m' b' [] := of_append (r := []) h
  rw [hfront.read, read_nil, prepend, List.append_nil]

/-- A place in a line is reached in a whole text as it is in the line. -/
theorem Reaches.lex (h : d.Reaches m b t k m' b' r) (hm : m.Proper) (ht : '\n' ∉ t)
    {rest : Text} (hr : IsBreak rest) :
    d.lex m b (t ++ rest) = prepend k (d.lex m' b' (r ++ rest)) := by
  induction h with
  | here => rfl
  | token first more ih =>
    rw [lex_token first hm ht hr, ih (first.proper hm) fun hn => ht (first.suffix.1.subset hn),
      prepend_prepend]

/-- Inside a literal the reading passes character by character, and none gives code. -/
theorem reaches_inLiteral {x : Text} (hopen : ¬ StartsIn l.closer.text x v)
    (hplain : l.escapes = true → '\\' ∉ x) (b : Option Char) :
    ∃ b', d.Reaches (.literal l) b (x ++ v) [] (.literal l) b' v := by
  induction x generalizing b with
  | nil => exact ⟨b, .here _ _ _⟩
  | cons c x ih =>
    obtain ⟨hno, hopen⟩ := not_startsIn_cons hopen
    have hshows : (l.escapes && c == '\\') = false := by
      rw [← Bool.not_eq_true, Bool.and_eq_true, beq_iff_eq]
      rintro ⟨he, rfl⟩
      exact hplain he List.mem_cons_self
    obtain ⟨b', hmore⟩ := ih hopen (fun he hn => hplain he (List.mem_cons_of_mem c hn)) (some c)
    exact ⟨b', .token (.inLiteral hshows hno) hmore⟩

theorem reaches_inComment {x : Text} (hopen : ¬ StartsIn ['*', '/'] x v) (b : Option Char) :
    ∃ b', d.Reaches .comment b (x ++ v) [] .comment b' v := by
  induction x generalizing b with
  | nil => exact ⟨b, .here _ _ _⟩
  | cons c x ih =>
    obtain ⟨hno, hopen⟩ := not_startsIn_cons hopen
    obtain ⟨b', hmore⟩ := ih hopen (some c)
    exact ⟨b', .token (.inComment hno) hmore⟩

/-- Where a mark opens a literal, no comment starts. -/
theorem Opens.no_comment (h : d.Opens o) (r : Text) :
    d.startsLineComment (o.mark.text ++ r) = false ∧
      startsBlockComment (o.mark.text ++ r) = false := by
  obtain ⟨hdash, hsharp, hslash⟩ := h.first
  constructor
  · simp [startsLineComment, Mark.text, List.isPrefixOf, Ne.symm hdash, Ne.symm hsharp]
  · simp [startsBlockComment, Mark.text, List.isPrefixOf, Ne.symm hslash]

theorem Token.start (h : d.opener? b (o.mark.text ++ r) = some o) :
    d.Token .code b (o.mark.text ++ r) o.mark.text (.literal o.literal) o.mark.text.getLast? r := by
  obtain ⟨hline, hblock⟩ := (opens_of_opener? h).no_comment r
  exact .literalStart r hline hblock h

/-- A quotation mark opens its literal wherever it stands in code. -/
theorem opener?_of_quote? (h : quote? d c = some o) (b : Option Char) (r : Text) :
    d.opener? b (c :: r) = some o := by
  obtain ⟨hnational, hdollar⟩ := not_special_of_quote? h r
  simp [opener?, hnational, hdollar, h]

end Dialect
end MigrationScript
