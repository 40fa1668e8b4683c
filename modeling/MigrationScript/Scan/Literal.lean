import MigrationScript.Dialect.Basic
import MigrationScript.Text.Basic
import MigrationScript.Text.Word

/-!
Literals and quoted names: what opens them in each dialect and where they close. The main
function on an open literal is `Literal.close?`, the place of its closing text.
-/
namespace MigrationScript

/-- An open literal: the mark that closes it, and whether a backslash hides what follows it. -/
structure Literal where
  closer : Mark
  escapes : Bool := false
  deriving DecidableEq, Repr

/-- The first place where the closing mark stands; a hidden character is passed over, and a
backslash that ends the line hides nothing. -/
def Literal.close? (l : Literal) : Text → Option Nat
  | [] => none
  | c :: t =>
    if l.escapes && c == '\\' then
      match t with
      | [] => none
      | _ :: t => (l.close? t).map (· + 2)
    else if l.closer.text.isPrefixOf (c :: t) then some 0
    else (l.close? t).map (· + 1)

/-- At the place that is found the closing mark stands. -/
theorem Literal.drop_of_close? {l : Literal} {t : Text} {n : Nat} (h : l.close? t = some n) :
    ∃ r, t.drop n = l.closer.text ++ r := by
  fun_induction Literal.close? l t generalizing n with
  | case1 => simp at h
  | case2 => simp at h
  | case3 c he d t ih =>
    obtain ⟨k, hk, rfl⟩ := Option.map_eq_some_iff.mp h
    exact ih hk
  | case4 c t he hm =>
    obtain ⟨r, hr⟩ := List.isPrefixOf_iff_prefix.mp hm
    obtain rfl := Option.some.inj h
    exact ⟨r, hr.symm⟩
  | case5 c t he hm ih =>
    obtain ⟨k, hk, rfl⟩ := Option.map_eq_some_iff.mp h
    exact ih hk

/-- An opening mark and the literal it opens. -/
structure Opener where
  mark : Mark
  literal : Literal
  deriving DecidableEq, Repr

namespace Dialect

/-- Literals and names quoted by single characters. -/
def quote? (d : Dialect) (c : Char) : Option Opener :=
  if c = '\x27' || c = '"' then some ⟨⟨c, []⟩, ⟨c, []⟩, d == mysql⟩
  else if c = '\x60' && (d == mysql || d == sqlite) then some ⟨⟨c, []⟩, ⟨c, []⟩, false⟩
  else if c = '[' && (d == sqlite || d == tsql) then some ⟨⟨c, []⟩, ⟨']', []⟩, false⟩
  else none

/-- The closing partner of a bracket; any other character closes itself. -/
def partner (c : Char) : Char :=
  if c = '[' then ']'
  else if c = '\x7b' then '\x7d'
  else if c = '(' then ')'
  else if c = '<' then '>'
  else c

/-- The letter `q`, a quotation mark and a character that is not blank; the partner of that
character and a quotation mark close the literal. -/
def alternativeQuote? : Text → Option Opener
  | q :: '\x27' :: c :: _ =>
    if (q = 'q' || q = 'Q') && !isBlank c then
      some ⟨⟨q, ['\x27', c]⟩, ⟨partner c, ['\x27']⟩, false⟩
    else
      none
  | _ => none

/-- An alternative quote, which may have `n` before it. -/
def nationalQuote? : Text → Option Opener
  | n :: t =>
    if n = 'n' || n = 'N' then
      (alternativeQuote? t).map fun o => { o with mark := ⟨n, o.mark.text⟩ }
    else
      alternativeQuote? (n :: t)
  | [] => none

def isTagChar (c : Char) : Bool :=
  c == '_' || c.isAlphanum

/-- A tag between two dollar signs; it starts with no digit and may be empty. The same mark
closes the literal. -/
def dollarQuote? : Text → Option Opener
  | '$' :: t =>
    let tag := t.takeWhile isTagChar
    if !tag.head?.any Char.isDigit && (t.dropWhile isTagChar).head? == some '$' then
      let mark : Mark := ⟨'$', tag ++ ['$']⟩
      some ⟨mark, mark, false⟩
    else
      none
  | _ => none

/-- The opening mark that stands here, `before` being the character in front of it on the line.
The longer forms open only where no word is running. -/
def opener? (d : Dialect) (before : Option Char) : Text → Option Opener
  | [] => none
  | c :: t =>
    let special :=
      if before.any isWordChar then none
      else if d = oracle then nationalQuote? (c :: t)
      else if d = postgres then dollarQuote? (c :: t)
      else none
    special.or (quote? d c)

theorem eq_append_of_quote? {d : Dialect} {c : Char} {o : Opener} (h : quote? d c = some o) :
    o.mark.text = [c] := by
  unfold quote? at h
  split at h
  · obtain rfl := Option.some.inj h
    rfl
  · split at h
    · obtain rfl := Option.some.inj h
      rfl
    · split at h
      · obtain rfl := Option.some.inj h
        rfl
      · simp at h

theorem eq_append_of_alternativeQuote? {t : Text} {o : Opener}
    (h : alternativeQuote? t = some o) : ∃ r, t = o.mark.text ++ r := by
  unfold alternativeQuote? at h
  split at h
  next q c r =>
    split at h
    · obtain rfl := Option.some.inj h
      exact ⟨r, rfl⟩
    · simp at h
  next => simp at h

theorem eq_append_of_nationalQuote? {t : Text} {o : Opener} (h : nationalQuote? t = some o) :
    ∃ r, t = o.mark.text ++ r := by
  unfold nationalQuote? at h
  split at h
  next n t =>
    split at h
    · obtain ⟨o, ho, rfl⟩ := Option.map_eq_some_iff.mp h
      obtain ⟨r, rfl⟩ := eq_append_of_alternativeQuote? ho
      exact ⟨r, rfl⟩
    · exact eq_append_of_alternativeQuote? h
  next => simp at h

theorem eq_append_of_dollarQuote? {t : Text} {o : Opener} (h : dollarQuote? t = some o) :
    ∃ r, t = o.mark.text ++ r := by
  unfold dollarQuote? at h
  split at h
  next t =>
    dsimp only at h
    split at h
    next hc =>
      obtain rfl := Option.some.inj h
      have hd : (t.dropWhile isTagChar).head? = some '$' := by
        simpa using (Bool.and_eq_true_iff.mp hc).2
      obtain ⟨r, hr⟩ := List.head?_eq_some_iff.mp hd
      refine ⟨r, ?_⟩
      have := List.takeWhile_append_dropWhile (p := isTagChar) (l := t)
      rw [hr] at this
      simp [Mark.text, this]
    next => simp at h
  next => simp at h

/-- An opening mark stands where it is found. -/
theorem eq_append_of_opener? {d : Dialect} {before : Option Char} {t : Text} {o : Opener}
    (h : opener? d before t = some o) : ∃ r, t = o.mark.text ++ r := by
  unfold opener? at h
  split at h
  · simp at h
  next c t =>
    dsimp only at h
    rcases Option.or_eq_some_iff.mp h with hs | ⟨-, hq⟩
    · split at hs
      · simp at hs
      · split at hs
        · exact eq_append_of_nationalQuote? hs
        · split at hs
          · exact eq_append_of_dollarQuote? hs
          · simp at hs
    · exact ⟨t, by rw [eq_append_of_quote? hq]; rfl⟩

end Dialect
end MigrationScript
