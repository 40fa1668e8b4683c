import Mathlib.Algebra.Group.Nat.Even
import Mathlib.Data.List.DropRight
import Mathlib.Order.Bounds.Basic
import MigrationScript.Proofs.Reading

/-!
Where a literal ends. The search for the closing mark goes through a text once and passes over the
character behind a backslash. Main statement: it finds the first place where the mark stands behind
an even number of backslashes, counted back no further than to where the search starts, and nothing
if there is no such place.
-/
namespace MigrationScript

/-- A search from `start` on finds the first place that has `p`, and nothing only if no place from
there on has it. -/
structure FindsFirst (p : Nat → Prop) (start : Nat) (found : Option Nat) : Prop where
  some_iff : ∀ i, found = some i ↔ IsLeast {i | start ≤ i ∧ p i} i
  none_iff : found = none ↔ ∀ i, start ≤ i → ¬ p i

namespace FindsFirst

variable {p q : Nat → Prop} {start n i : Nat} {found : Option Nat}

theorem of_isLeast (h : IsLeast {i | start ≤ i ∧ p i} i) : FindsFirst p start (some i) where
  some_iff j := by
    constructor
    · rintro ⟨⟩
      exact h
    · exact fun hj => congrArg some (h.unique hj)
  none_iff := by
    constructor
    · exact fun hn => nomatch hn
    · exact fun hn => absurd h.1.2 (hn i h.1.1)

theorem of_none (h : ∀ i, start ≤ i → ¬ p i) : FindsFirst p start none where
  some_iff i := by
    constructor
    · exact fun hn => nomatch hn
    · exact fun hi => absurd hi.1.2 (h i hi.1.1)
  none_iff := ⟨fun _ => h, fun _ => rfl⟩

theorem congr (h : FindsFirst q start found) (hp : ∀ i, p i ↔ q i) : FindsFirst p start found := by
  obtain rfl : p = q := funext fun i => propext (hp i)
  exact h

theorem here (h : p start) : FindsFirst p start (some start) :=
  of_isLeast ⟨⟨le_rfl, h⟩, fun _ hi => hi.1⟩

/-- A search that starts `n` places later finds the same place, if there is none in between. -/
theorem later (h : FindsFirst q 0 found) (hp : ∀ i, p (i + n) ↔ q i) (hn : start ≤ n)
    (no : ∀ i, start ≤ i → i < n → ¬ p i) : FindsFirst p start (found.map (· + n)) := by
  have behind {i : Nat} (hs : start ≤ i) (hi : p i) : ∃ j, i = j + n ∧ q j := by
    have hle : n ≤ i := Nat.le_of_not_lt fun hlt => no i hs hlt hi
    obtain ⟨j, rfl⟩ := Nat.exists_eq_add_of_le' hle
    exact ⟨j, rfl, (hp j).mp hi⟩
  cases found with
  | none =>
    refine of_none fun i hs hi => ?_
    obtain ⟨j, -, hj⟩ := behind hs hi
    exact h.none_iff.mp rfl j j.zero_le hj
  | some k =>
    obtain ⟨⟨-, hk⟩, hleast⟩ := (h.some_iff k).mp rfl
    refine of_isLeast ⟨⟨hn.trans (Nat.le_add_left n k), (hp k).mpr hk⟩, ?_⟩
    rintro i ⟨hs, hi⟩
    obtain ⟨j, rfl, hj⟩ := behind hs hi
    exact Nat.add_le_add_right (hleast ⟨j.zero_le, hj⟩) n

end FindsFirst

namespace Text

/-- How many backslashes stand side by side in front of the place `i` of a line, counted back no
further than to the place `start`. -/
def backslashesBefore (line : Text) (start i : Nat) : Nat :=
  (((line.take i).drop start).rtakeWhile (· == '\\')).length

variable {t line : Text} {c e : Char}

/-- A character put in front of a text is counted if it is a backslash and so are all the others. -/
private theorem length_rtakeWhile_cons (p : Char → Bool) (c : Char) (t : Text) :
    ((c :: t).rtakeWhile p).length =
      (t.rtakeWhile p).length + if (t.rtakeWhile p).length = t.length ∧ p c then 1 else 0 := by
  simp only [List.rtakeWhile, List.reverse_cons, List.length_reverse, List.takeWhile_append]
  by_cases hall : (t.reverse.takeWhile p).length = t.length
  · by_cases hc : p c <;> simp [hall, hc]
  · simp [hall]

/-- A character that is no backslash is not counted. -/
theorem backslashesBefore_plain (hc : c ≠ '\\') (t : Text) (i : Nat) :
    backslashesBefore (c :: t) 0 (i + 1) = backslashesBefore t 0 i := by
  simp [backslashesBefore, length_rtakeWhile_cons, hc]

/-- A backslash and the character behind it do not matter for whether the number is even. -/
theorem even_backslashesBefore_hidden (e : Char) (t : Text) (i : Nat) :
    Even (backslashesBefore ('\\' :: e :: t) 0 (i + 2)) ↔ Even (backslashesBefore t 0 i) := by
  have hle := (List.rtakeWhile_suffix (· == '\\') (t.take i)).length_le
  simp only [backslashesBefore, List.take_succ_cons, List.drop_zero, length_rtakeWhile_cons,
    List.length_cons]
  generalize ((t.take i).rtakeWhile (· == '\\')).length = n at hle ⊢
  by_cases hall : n = (t.take i).length ∧ (e == '\\') = true
  · simp [hall, Nat.even_add_one]
  · have hne : n ≠ (t.take i).length + 1 := by omega
    rw [if_neg hall, Nat.add_zero, if_neg fun h => hne h.1, Nat.add_zero]

end Text

namespace Literal

/-- The closing mark stands at the place `i` of a line that is read from the place `start` on. Where
a backslash hides what follows it, an even number of backslashes stands in front, of which each
second one is hidden itself. -/
def StandsAt (l : Literal) (line : Text) (start i : Nat) : Prop :=
  l.closer.text <+: line.drop i ∧ (l.escapes = true → Even (line.backslashesBefore start i))

/-- The place of the closing mark, if it is searched for from the place `start` of a line on. -/
def closeFrom? (l : Literal) (line : Text) (start : Nat) : Option Nat :=
  (l.close? (line.drop start)).map (· + start)

variable {l : Literal} {t : Text} {c e : Char}

theorem not_standsAt_nil {i start : Nat} : ¬ l.StandsAt [] start i := by
  rintro ⟨h, -⟩
  simp [Mark.text] at h

theorem standsAt_plain (hc : l.escapes = true → c ≠ '\\') (i : Nat) :
    l.StandsAt (c :: t) 0 (i + 1) ↔ l.StandsAt t 0 i := by
  refine and_congr Iff.rfl (forall_congr' fun he => ?_)
  rw [Text.backslashesBefore_plain (hc he)]

theorem standsAt_hidden (e : Char) (t : Text) (i : Nat) :
    l.StandsAt ('\\' :: e :: t) 0 (i + 2) ↔ l.StandsAt t 0 i :=
  and_congr Iff.rfl (forall_congr' fun _ => Text.even_backslashesBefore_hidden e t i)

/-- The search finds the first place where the closing mark stands and is not hidden. -/
theorem findsFirst_close? (hl : l.escapes = true → l.closer.first ≠ '\\') (t : Text) :
    FindsFirst (l.StandsAt t 0) 0 (l.close? t) := by
  have first {c : Char} {t : Text} (h : l.StandsAt (c :: t) 0 0) : l.closer.first = c :=
    (List.cons_prefix_cons.mp h.1).1
  fun_induction close? l t with
  | case1 => exact .of_none fun i _ => not_standsAt_nil
  | case2 c he =>
    obtain ⟨hesc, hc⟩ := Bool.and_eq_true_iff.mp he
    refine .of_none fun i _ hi => ?_
    cases i with
    | zero => exact hl hesc ((first hi).trans (beq_iff_eq.mp hc))
    | succ i => simpa [Mark.text] using hi.1
  | case3 c he e t ih =>
    obtain ⟨hesc, hc⟩ := Bool.and_eq_true_iff.mp he
    obtain rfl : c = '\\' := beq_iff_eq.mp hc
    refine ih.later (standsAt_hidden e t) (Nat.zero_le 2) fun i _ hi hs => ?_
    -- At the backslash no mark starts, and a mark behind it is hidden.
    obtain rfl | rfl : i = 0 ∨ i = 1 := by omega
    · exact hl hesc (first hs)
    · have heven := hs.2 hesc
      simp [Text.backslashesBefore, List.rtakeWhile] at heven
  | case4 c t he hm =>
    exact .here ⟨List.isPrefixOf_iff_prefix.mp hm, fun _ => by simp [Text.backslashesBefore]⟩
  | case5 c t he hm ih =>
    have hc : l.escapes = true → c ≠ '\\' := by
      rintro hesc rfl
      exact he (by simp [hesc])
    refine ih.later (standsAt_plain hc) (Nat.zero_le 1) fun i _ hi hs => ?_
    obtain rfl := Nat.lt_one_iff.mp hi
    exact hm (List.isPrefixOf_iff_prefix.mpr hs.1)

theorem standsAt_drop (line : Text) (start i : Nat) :
    l.StandsAt line start (i + start) ↔ l.StandsAt (line.drop start) 0 i := by
  simp [StandsAt, Text.backslashesBefore, List.drop_take, Nat.add_comm start]

theorem findsFirst_closeFrom? (hl : l.escapes = true → l.closer.first ≠ '\\') (line : Text)
    (start : Nat) : FindsFirst (l.StandsAt line start) start (l.closeFrom? line start) :=
  (findsFirst_close? hl (line.drop start)).later (standsAt_drop line start) le_rfl
    fun _ hs hi => absurd hi (Nat.not_lt.mpr hs)

/-- A closing mark of one character. -/
theorem standsAt_single {q : Char} {e : Bool} {start i : Nat} :
    StandsAt ⟨⟨q, []⟩, e⟩ t start i ↔
      t[i]? = some q ∧ (e = true → Even (t.backslashesBefore start i)) := by
  refine and_congr ?_ Iff.rfl
  rw [← List.head?_drop]
  exact List.singleton_prefix_iff_head?_eq_some

end Literal

namespace Dialect

/-- No closing mark starts with a backslash where backslashes hide. -/
theorem HasLiteral.shows {d : Dialect} {l : Literal} (h : d.HasLiteral l)
    (he : l.escapes = true) : l.closer.first ≠ '\\' := by
  obtain ⟨o, ho, rfl⟩ := h
  cases ho with
  | quotation hc => rcases hc with rfl | rfl <;> simp
  | _ => contradiction

/-- Where the literals of MySQL end in a line `t`, if their end is searched for from the place `start`
on. -/
structure FindsQuotes (t : Text) (start : Nat) : Prop where
  /-- Between quotation marks a backslash hides what follows it. -/
  quotation : ∀ q, q = '\x27' ∨ q = '"' → ∃ o, quote? mysql q = some o ∧
    FindsFirst (fun i => t[i]? = some q ∧ Even (t.backslashesBefore start i)) start
      (o.literal.closeFrom? t start)
  backtick : ∃ o, quote? mysql '\x60' = some o ∧
    FindsFirst (fun i => t[i]? = some '\x60') start (o.literal.closeFrom? t start)
  /-- There are no other literals. -/
  all : ∀ l, mysql.HasLiteral l → ∃ q ∈ ['\x27', '"', '\x60'], ∃ o, quote? mysql q = some o ∧
    o.literal = l

/-- The end of a MySQL string is the first quotation mark of its kind behind an even number of
backslashes, that of a name the first backtick. -/
theorem findsQuotes (t : Text) (start : Nat) : FindsQuotes t start where
  quotation q hq := by
    have hopens := quote?_of_escaped hq
    have hl : mysql.HasLiteral ⟨⟨q, []⟩, true⟩ := ⟨_, opens_of_quote? hopens, rfl⟩
    refine ⟨_, hopens, (Literal.findsFirst_closeFrom? hl.shows t start).congr fun i => ?_⟩
    rw [Literal.standsAt_single, forall_prop_of_true rfl]
  backtick := by
    have hopens : quote? mysql '\x60' = _ := quote?_of_backticked (.inl rfl)
    have hl : mysql.HasLiteral ⟨⟨'\x60', []⟩, false⟩ := ⟨_, opens_of_quote? hopens, rfl⟩
    refine ⟨_, hopens, (Literal.findsFirst_closeFrom? hl.shows t start).congr fun i => ?_⟩
    simp [Literal.standsAt_single]
  all := by
    rintro l ⟨o, ho, rfl⟩
    cases ho with
    | @quotation q hq =>
      exact ⟨q, by rcases hq with rfl | rfl <;> simp, _, quote?_of_escaped hq, rfl⟩
    | backtick => exact ⟨'\x60', by simp, _, quote?_of_backticked (.inl rfl), rfl⟩
    | bracket hd => simp at hd
    | _ => contradiction

/-- Of two backslashes the first hides the second, unless the search starts between them. -/
example : let l : Literal := ⟨⟨'\x27', []⟩, true⟩
    l.closeFrom? "\\\\' '".toList 0 = some 2 ∧ l.closeFrom? "\\\\' '".toList 1 = some 4 := by
  decide +kernel

end Dialect
end MigrationScript
