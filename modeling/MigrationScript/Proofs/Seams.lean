import Mathlib.Data.List.TakeWhile
import MigrationScript.Proofs.Interiors
import MigrationScript.Proofs.Recognition

/-!
Comments in the code of a line. A scan takes a comment out and puts nothing in its place, so that
the words at its two sides are read as one, where a blank would keep them apart. Main statement: the
line leaves the same mode as the line with a blank, and for the rest a statement goes on alike with
the two exactly if the words at the seam decide the same in both forms; where white space stands
beside the comment, and in dialects without special statements, they always do.
-/
namespace MigrationScript

open Text

/-- A comment with its marks. -/
def blockComment (w : Text) : Text :=
  '/' :: '*' :: (w ++ ['*', '/'])

namespace Dialect

variable {d : Dialect} {m m' : Mode} {b b' before : Option Char} {t v k r rest x y w : Text}

/-- A token that leaves some of a text is there too if white space stands in that place. -/
theorem Token.exchange (h : d.Token m b (t ++ v) k m' b' (r ++ v)) (hm : m.Proper) (hv : v ≠ [])
    (hrest : StartsBlank rest) : d.Token m b (t ++ rest) k m' b' (r ++ rest) := by
  have hleft : r ++ v ≠ [] := List.append_ne_nil_of_right_ne_nil r hv
  have hmark {p t : Text} (hp : ∀ c ∈ p, isBlank c = false)
      (no : p.isPrefixOf (t ++ v) = false) : p.isPrefixOf (t ++ rest) = false := by
    rw [isPrefixOf_append_blank hp hrest]
    exact isPrefixOf_of_append no
  generalize hw : t ++ v = u at h
  generalize hx : r ++ v = x at h hleft
  -- A last backslash and a line comment take all of a text and leave no place for white space.
  cases h with
  | commentEnd x =>
    subst hx
    obtain rfl : t = '*' :: '/' :: r := List.append_cancel_right hw
    exact .commentEnd (r ++ rest)
  | @inComment b c x no =>
    subst hx
    obtain rfl : t = c :: r := List.append_cancel_right hw
    exact .inComment (hmark (t := c :: r) (by decide) no)
  | @hiddenChar l b c e x hides =>
    subst hx
    obtain rfl : t = c :: e :: r := List.append_cancel_right hw
    exact .hiddenChar e (r ++ rest) hides
  | lastBackslash => contradiction
  | literalEnd x shows =>
    rw [← hx, ← List.append_assoc] at hw
    obtain rfl := List.append_cancel_right hw
    rw [List.append_assoc]
    exact .literalEnd (r ++ rest) shows
  | @inLiteral l b c x shows no =>
    subst hx
    obtain rfl : t = c :: r := List.append_cancel_right hw
    exact .inLiteral shows (hmark (t := c :: r) hm.solid no)
  | lineComment => contradiction
  | commentStart x =>
    subst hx
    obtain rfl : t = '/' :: '*' :: r := List.append_cancel_right hw
    exact .commentStart (r ++ rest)
  | @literalStart b o x noLine noBlock opens =>
    rw [← hx, ← List.append_assoc] at hw
    obtain rfl := List.append_cancel_right hw
    rw [List.append_assoc]
    exact .start (opener?_of_mark opens (r ++ rest))
  | @inCode b c x noLine noBlock noOpener =>
    subst hx
    obtain rfl : t = c :: r := List.append_cancel_right hw
    have hline := startsLineComment_of_append (t := c :: r) noLine
    have hopen := opener?_of_append (t := c :: r) noOpener
    rw [← startsLineComment_append_blank hrest] at hline
    rw [← opener?_append_blank d b (c :: r) hrest] at hopen
    exact .inCode hline (hmark (t := c :: r) (by decide) noBlock) hopen

/-- A place that a reading comes to in a text is reached too if white space stands there. -/
theorem Reaches.exchange (h : d.Reaches m b (t ++ v) k m' b' (r ++ v)) (hm : m.Proper) (hv : v ≠ [])
    (hrest : StartsBlank rest) : d.Reaches m b (t ++ rest) k m' b' (r ++ rest) := by
  generalize hw : t ++ v = w at h
  generalize hx : r ++ v = x at h
  induction h generalizing t with
  | here =>
    obtain rfl := List.append_cancel_right (hw.trans hx.symm)
    exact .here _ _ _
  | @token m m₁ m₂ b b₁ b₂ w k y k' x first more ih =>
    obtain ⟨y, rfl⟩ := more.suffix
    rw [← hw, ← hx, ← List.append_assoc] at first
    have hmore := ih (first.proper hm) (t := y ++ r) (by rw [List.append_assoc, hx]) hx
    exact .token (first.exchange hm hv hrest) hmore

/-- Of a comment in a line's code nothing is left. -/
theorem Reaches.read_comment
    (h : d.Reaches .code b (x ++ (blockComment w ++ y)) k .code before (blockComment w ++ y))
    (hw : ¬ ['*', '/'] <:+: w) :
    d.read .code b (x ++ (blockComment w ++ y)) = prepend k (d.read .code none y) := by
  have hopen : ¬ StartsIn ['*', '/'] w ['*', '/'] := by
    rintro ⟨u, t, rfl, ht, hp⟩
    obtain ⟨c, t, rfl⟩ := List.exists_cons_of_ne_nil ht
    cases t with
    | nil => simp at hp
    | cons e t =>
      simp only [List.cons_append, List.cons_prefix_cons] at hp
      obtain ⟨rfl, rfl, -⟩ := hp
      exact hw ⟨u, t, by simp⟩
  have hsplit : blockComment w ++ y = '/' :: '*' :: (w ++ (['*', '/'] ++ y)) := by
    simp [blockComment]
  obtain ⟨b', hinside⟩ := reaches_inComment (d := d) (not_startsIn_append hopen y) (some '*')
  rw [h.read, hsplit, read_token (.commentStart _), prepend_nil, hinside.read, prepend_nil]
  rw [show ['*', '/'] ++ y = '*' :: '/' :: y from rfl, read_token (.commentEnd y), prepend_nil]
  rw [read_before none fun _ => by decide]

/-- A blank in the place of a comment stays in the code. -/
theorem Reaches.read_blank
    (h : d.Reaches .code none (x ++ (blockComment w ++ y)) k .code before (blockComment w ++ y)) :
    d.read .code none (x ++ ' ' :: y) = prepend k (prepend [' '] (d.read .code none y)) := by
  have hplace : d.Reaches .code none (x ++ ' ' :: y) k .code before (' ' :: y) :=
    exchange (r := []) h trivial (List.cons_ne_nil _ _) (.inr ⟨' ', y, by decide, rfl⟩)
  rw [(read_break (by decide) hplace).2, prepend_prepend]

end Dialect

namespace Text

variable {cut : Char → Bool} {s t w : Text}

theorem trim_append_blank (hw : ∀ c ∈ w, isBlank c = true) : trim (t ++ w) = trim t := by
  rw [trim, trim, trimStart, trimStart, List.dropWhile_append]
  split
  next h =>
    have hnil : t.dropWhile isBlank = [] := List.isEmpty_iff.mp h
    have hdrop : ∀ c ∈ w.dropWhile isBlank, isBlank c = true := fun c hc =>
      hw c ((List.dropWhile_sublist _).subset hc)
    rw [hnil, trimEnd_of_blank hdrop]
    rfl
  next => exact trimEnd_append_blank hw

theorem trim_blank_append (hw : ∀ c ∈ w, isBlank c = true) : trim (w ++ t) = trim t := by
  rw [trim, trim, trimStart, trimStart, List.dropWhile_append_of_pos hw]

/-- Between two texts that are not blank nothing is trimmed. -/
theorem trim_append (hs : trimStart s ≠ []) (ht : trimEnd t ≠ []) :
    trim (s ++ t) = trimStart s ++ trimEnd t := by
  have hstart : ¬ (s.dropWhile isBlank).isEmpty = true := by simpa [trimStart] using hs
  rw [trim, trimStart, List.dropWhile_append, if_neg hstart, trimEnd_append ht]
  rfl

/-- Two texts have their own runs next to each other if a cut stands where they meet. -/
theorem runs_append (h : (∀ c ∈ s.getLast?, cut c = true) ∨ ∀ c ∈ t.head?, cut c = true) :
    runs cut (s ++ t) = runs cut s ++ runs cut t := by
  rcases h with h | h
  · cases s using List.reverseRecOn with
    | nil => simp
    | append_singleton s c =>
      have hc : cut c = true := h c (by simp)
      rw [List.append_assoc, List.singleton_append, runs_append_cut hc, runs_append_cut hc,
        runs_nil, List.append_nil]
  · cases t with
    | nil => simp
    | cons c t =>
      have hc : cut c = true := h c rfl
      rw [runs_append_cut hc, runs_cons_cut hc]

theorem wordRuns_eq_flatMap (t : Text) : wordRuns t = (words t).flatMap wordRuns :=
  runs_eq_flatMap (fun c hc => by simp [isWordChar_of_isBlank hc]) t

end Text

namespace Delimiter

variable {x : Delimiter} {front back p q : Text}

/-- The delimiter stands in two texts, one behind the other, so that it has characters of both. -/
def Spans (x : Delimiter) (front back : Text) : Prop :=
  ∃ p q, p ≠ [] ∧ q ≠ [] ∧ upper x.text = p ++ q ∧ p <:+ front ∧ q <+: back

theorem not_spans_of_length (h : (upper x.text).length ≤ 1) : ¬ x.Spans front back := by
  rintro ⟨p, q, hp, hq, heq, -, -⟩
  have hp := List.length_pos_iff.mpr hp
  have hq := List.length_pos_iff.mpr hq
  rw [heq, List.length_append] at h
  omega

/-- Where the delimiter spans no seam, only what stands behind the seam can end with it. -/
theorem ends_append (h : ¬ x.Spans front back) (hp : p ≠ []) (hfront : p <:+ front) (hq : q ≠ [])
    (hback : q <+: back) : x.ends (p ++ q) = (!x.alone && (upper x.text).isSuffixOf q) := by
  unfold ends
  split
  next ha =>
    have hne : p ++ q ≠ upper x.text := fun heq => h ⟨p, q, hp, hq, heq.symm, hfront, hback⟩
    rw [ha, beq_eq_false_iff_ne.mpr hne]
    rfl
  next ha =>
    rw [Bool.not_eq_true] at ha
    rw [ha, Bool.not_false, Bool.true_and, Bool.eq_iff_iff, List.isSuffixOf_iff_suffix,
      List.isSuffixOf_iff_suffix]
    constructor
    · intro hends
      rcases List.suffix_or_suffix_of_suffix hends (List.suffix_append p q) with hs | ⟨r, hr⟩
      · exact hs
      · by_cases hn : r = []
        · rw [hn, List.nil_append] at hr
          exact hr ▸ List.suffix_rfl
        · obtain ⟨u, hu⟩ := hends
          rw [← hr, ← List.append_assoc] at hu
          have hr' : r <:+ p := ⟨u, List.append_cancel_right hu⟩
          exact absurd ⟨r, q, hn, hq, hr.symm, hr'.trans hfront, hback⟩ h
    · exact fun hends => hends.trans (List.suffix_append p q)

end Delimiter

/-- Code as it is compared, before it is trimmed. -/
def Text.leveled (code : Text) : Text :=
  upper (code.map fun c => if c = '\t' then ' ' else c)

theorem Text.leveled_append (s t : Text) : leveled (s ++ t) = leveled s ++ leveled t := by
  rw [leveled, List.map_append, upper_append]
  rfl

namespace Scan

variable {z z' : Scan} {x : Delimiter} {k c : Text}

/-- Trimming takes no word away. -/
theorem words_plainCode (z : Scan) : words z.plainCode = words (leveled z.code) :=
  runs_upper_trim (fun _ h => h) _

/-- A blank in the code keeps the words on its two sides apart. -/
theorem words_plainCode_blank (hz : z.code = k ++ ' ' :: c) :
    words z.plainCode = words (leveled k) ++ words (leveled c) := by
  have hblank : leveled (' ' :: c) = ' ' :: leveled c := rfl
  rw [words_plainCode, hz, leveled_append, hblank]
  exact runs_append_cut (by decide) _ _

/-- A delimiter that does not span the seam ends the code with a blank there exactly if it ends the
code without. -/
theorem ends_seam (hz : z.code = k ++ c) (hz' : z'.code = k ++ ' ' :: c)
    (hspan : ∀ w ∈ [[], [' ']], ¬ x.Spans (leveled k ++ w) (leveled c)) :
    x.ends z.plainCode = x.ends z'.plainCode := by
  rw [plainCode, plainCode, hz, hz', List.map_append, List.map_append, List.map_cons]
  simp only [leveled] at hspan
  generalize k.map (fun c => if c = '\t' then ' ' else c) = s at hspan ⊢
  generalize c.map (fun c => if c = '\t' then ' ' else c) = t at hspan ⊢
  rw [if_neg (by decide)]
  by_cases ht : trimEnd t = []
  · have hblank := (dropEnd_eq_nil_iff isBlank t).mp ht
    rw [trim_append_blank hblank, trim_append_blank (List.forall_mem_cons.mpr ⟨by decide, hblank⟩)]
  by_cases hs : trimStart s = []
  · have hblank : ∀ c ∈ s, isBlank c = true := List.dropWhile_eq_nil_iff.mp hs
    have hmore : ∀ c ∈ s ++ [' '], isBlank c = true :=
      List.forall_mem_append.mpr ⟨hblank, by decide⟩
    rw [trim_blank_append hblank, ← List.singleton_append, ← List.append_assoc,
      trim_blank_append hmore]
  -- Both sides have code, and the blank between them is not trimmed away.
  have hblank : trimEnd (' ' :: t) = ' ' :: trimEnd t := trimEnd_append (a := [' ']) ht
  have hfront : upper (trimStart s) <:+ upper s := by
    obtain ⟨u, hu⟩ := List.dropWhile_suffix (l := s) isBlank
    exact ⟨upper u, by rw [← upper_append]; exact congrArg upper hu⟩
  have hback : upper (trimEnd t) <+: upper t := by
    obtain ⟨u, hu, -⟩ := dropEnd_append isBlank t
    exact ⟨upper u, by rw [← upper_append]; exact congrArg upper hu.symm⟩
  have hs' := upper_ne_nil hs
  have ht' := upper_ne_nil ht
  have hup : upper (' ' :: trimEnd t) = [' '] ++ upper (trimEnd t) := rfl
  rw [trim_append hs ht, trim_append hs (by rw [hblank]; simp), hblank, upper_append, upper_append,
    hup, ← List.append_assoc]
  rw [Delimiter.ends_append (hspan [] (by simp)) hs' (by simpa using hfront) ht' hback]
  rw [Delimiter.ends_append (hspan [' '] (by simp)) (by simp) ?_ ht' hback]
  obtain ⟨u, hu⟩ := hfront
  exact ⟨u, by rw [← hu, List.append_assoc]⟩

end Scan

namespace Draft

variable {d : Dialect} {s : Draft}

/-- Whether a statement is special after a line with these words in its code. -/
def specialWith (d : Dialect) (s : Draft) (ws : List Text) : Bool :=
  s.special ||
    (s.override.isNone && d.isSpecial (if s.head.length ≤ 8 then s.head ++ ws else s.head))

/-- The delimiter of a statement after a line with these words in its code. -/
def delimiterWith (d : Dialect) (s : Draft) (ws : List Text) : Delimiter :=
  s.override.getD (if s.specialWith d ws then d.specialDelimiter else d.delimiter)

/-- How many blocks of a statement are open after a line with these words in its code. -/
def depthWith (d : Dialect) (s : Draft) (ws : List Text) : Nat :=
  if d.nestsBlocks && s.specialWith d ws then (ws.flatMap wordRuns).foldl countWord s.depth
  else s.depth

theorem special_add_words (s : Draft) (line : Text) :
    (s.add d line).special = s.specialWith d (words (s.scan d line).plainCode) := by
  cases ho : s.override <;> simp [add, specialWith, ho, extendHead]

theorem delimiter_add_words (s : Draft) (line : Text) :
    (s.add d line).delimiter d = s.delimiterWith d (words (s.scan d line).plainCode) := by
  rw [delimiter, override_add, special_add_words]
  rfl

theorem depth_add_words (s : Draft) (line : Text) :
    (s.add d line).depth = s.depthWith d (words (s.scan d line).plainCode) := by
  rw [depth_add, tracksBlocks, special_add_words, depthWith, ← wordRuns_eq_flatMap]

/-- Once it is known what kind of statement it is, no words change that. -/
theorem specialWith_settled (h : s.special = true ∨ s.override.isSome = true)
    (ws ws' : List Text) : s.specialWith d ws = s.specialWith d ws' := by
  rcases h with h | h
  · simp [specialWith, h]
  · have hn : s.override.isNone = false := by simpa using h
    simp [specialWith, hn]

theorem specialWith_plain (hd : d ∉ [Dialect.oracle, .postgres, .sqlite]) (ws ws' : List Text) :
    s.specialWith d ws = s.specialWith d ws' := by
  cases d <;> simp [specialWith, Dialect.isSpecial] at hd ⊢

/-- Two ways to read the words at a seam decide the same if both make the statement special or
neither does, and if no run of word characters goes over the seam where blocks count. -/
theorem decides_same {front back : Text}
    (h : s.specialWith d (words (front ++ back)) = s.specialWith d (words front ++ words back))
    (hruns : d.nestsBlocks = true →
      wordRuns (front ++ back) = wordRuns front ++ wordRuns back) :
    s.delimiterWith d (words (front ++ back)) = s.delimiterWith d (words front ++ words back) ∧
      s.depthWith d (words (front ++ back)) = s.depthWith d (words front ++ words back) := by
  constructor
  · rw [delimiterWith, delimiterWith, h]
  · rw [depthWith, depthWith, h, List.flatMap_append, ← wordRuns_eq_flatMap, ← wordRuns_eq_flatMap,
      ← wordRuns_eq_flatMap]
    cases hd : d.nestsBlocks with
    | false => rfl
    | true => rw [hruns hd]

section Seam

variable {a b w k code commented apart : Text} {before : Option Char}

/-- Two lines that have the same code, but for a blank, leave a statement alike if they find the
same delimiter and as many open blocks. -/
theorem alike_iff_words (hmode : (s.add d commented).mode = (s.add d apart).mode)
    (hcode : (s.scan d commented).code = k ++ code)
    (hcode' : (s.scan d apart).code = k ++ ' ' :: code)
    (hspan : ∀ v ∈ [[], [' ']],
      ¬ ((s.add d commented).delimiter d).Spans (leveled k ++ v) (leveled code)) :
    (s.add d commented).Alike d (s.add d apart) ↔
      s.delimiterWith d (words (leveled k ++ leveled code)) =
          s.delimiterWith d (words (leveled k) ++ words (leveled code)) ∧
        s.depthWith d (words (leveled k ++ leveled code)) =
          s.depthWith d (words (leveled k) ++ words (leveled code)) := by
  have hwords : words (s.scan d commented).plainCode = words (leveled k ++ leveled code) := by
    rw [Scan.words_plainCode, hcode, leveled_append]
  rw [← hwords, ← Scan.words_plainCode_blank hcode', ← delimiter_add_words, ← delimiter_add_words,
    ← depth_add_words, ← depth_add_words]
  constructor
  · exact fun h => ⟨h.delimiter, h.depth⟩
  · rintro ⟨hdelimiter, hdepth⟩
    refine ⟨hmode, hdelimiter, hdepth, ?_⟩
    rw [Bool.eq_iff_iff, terminated_add_iff, terminated_add_iff, hmode, hdepth,
      Scan.ends_seam hcode hcode' hspan, hdelimiter]

/-- A line with a comment in its code, between `front` and `back`, against the line that has a blank
in that place. A statement goes on alike with the two exactly if the words at the seam find the same
delimiter and as many open blocks when they are one word as when they are two. -/
structure ActsAsBlank (d : Dialect) (s : Draft) (front back commented apart : Text) : Prop where
  mode : (s.add d commented).mode = (s.add d apart).mode
  alike_iff : (s.add d commented).Alike d (s.add d apart) ↔
    s.delimiterWith d (words (front ++ back)) = s.delimiterWith d (words front ++ words back) ∧
      s.depthWith d (words (front ++ back)) = s.depthWith d (words front ++ words back)
  /-- White space stands beside the comment, or there is no code on one side. -/
  beside : (∀ c ∈ front.getLast?, isBlank c = true) ∨ (∀ c ∈ back.head?, isBlank c = true) →
    (s.add d commented).Alike d (s.add d apart)
  /-- The dialect has no special statements. -/
  plain : d ∉ [Dialect.oracle, .postgres, .sqlite] → (s.add d commented).Alike d (s.add d apart)
  /-- It is known what kind of statement it is, and no word that may count runs over the seam. -/
  settled : s.special = true ∨ s.override.isSome = true →
    (d.nestsBlocks = true → (∀ c ∈ front.getLast?, isWordChar c = false) ∨
      ∀ c ∈ back.head?, isWordChar c = false) →
    (s.add d commented).Alike d (s.add d apart)

/-- What a comment in the code of a line does to the statement that takes in the line. -/
theorem actsAsBlank (hm : s.mode = .code) (hdata : s.readsData d = false)
    (place : d.Reaches .code none (a ++ (blockComment w ++ b)) k .code before
      (blockComment w ++ b))
    (hw : ¬ ['*', '/'] <:+: w)
    (hspan : ∀ v ∈ [[], [' ']], ¬ ((s.add d (a ++ (blockComment w ++ b))).delimiter d).Spans
      (leveled k ++ v) (leveled (d.read .code none b).1)) :
    ActsAsBlank d s (leveled k) (leveled (d.read .code none b).1) (a ++ (blockComment w ++ b))
      (a ++ ' ' :: b) := by
  obtain ⟨hcode, hmode⟩ := scan_of_code hdata (a ++ (blockComment w ++ b))
  obtain ⟨hcode', hmode'⟩ := scan_of_code hdata (a ++ ' ' :: b)
  rw [hm, place.read_comment hw] at hcode hmode
  rw [hm, place.read_blank] at hcode' hmode'
  have hmodes := hmode.trans hmode'.symm
  have hiff := alike_iff_words hmodes hcode hcode' hspan
  generalize leveled k = front at hiff
  generalize leveled (d.read .code none b).1 = back at hiff
  exact {
    mode := hmodes
    alike_iff := hiff
    beside := by
      intro h
      have hblank : words (front ++ back) = words front ++ words back := runs_append h
      rw [hiff, hblank]
      exact ⟨rfl, rfl⟩
    plain := by
      intro hd
      refine hiff.mpr (decides_same (specialWith_plain hd _ _) fun hnests => ?_)
      cases d <;> simp [Dialect.nestsBlocks] at hd hnests
    settled := by
      intro hs hseam
      refine hiff.mpr (decides_same (specialWith_settled hs _ _) fun hnests => runs_append ?_)
      simpa using hseam hnests }

end Seam

/-- A comment between two statements of a trigger's body, of which the second closes the body. -/
theorem actsAsBlank_trigger_end :
    let s := ofLines .sqlite ["CREATE TRIGGER t AFTER INSERT ON a BEGIN SELECT 1".toList]
    let w := " c ".toList
    let b := "END;".toList
    (s.mode = .code ∧ s.readsData .sqlite = false ∧
      Dialect.sqlite.Reaches .code none ([';'] ++ (blockComment w ++ b)) [';'] .code (some ';')
        (blockComment w ++ b) ∧
      ¬ ['*', '/'] <:+: w ∧
      ∀ v ∈ [[], [' ']],
        ¬ ((s.add .sqlite ([';'] ++ (blockComment w ++ b))).delimiter .sqlite).Spans
          (leveled [';'] ++ v) (leveled (Dialect.sqlite.read .code none b).1)) ∧
      ActsAsBlank .sqlite s (leveled [';']) (leveled (Dialect.sqlite.read .code none b).1)
        ([';'] ++ (blockComment w ++ b)) ([';'] ++ ' ' :: b) := by
  intro s w b
  have hm : s.mode = .code := by decide +kernel
  have hdata : s.readsData .sqlite = false := rfl
  have place : Dialect.sqlite.Reaches .code none ([';'] ++ (blockComment w ++ b)) [';'] .code
      (some ';') (blockComment w ++ b) := (Dialect.Token.inCode rfl rfl rfl).reaches
  have hw : ¬ ['*', '/'] <:+: w := by decide
  have hspan : ∀ v ∈ [[], [' ']],
      ¬ ((s.add .sqlite ([';'] ++ (blockComment w ++ b))).delimiter .sqlite).Spans
        (leveled [';'] ++ v) (leveled (Dialect.sqlite.read .code none b).1) :=
    fun v _ => Delimiter.not_spans_of_length (by decide +kernel)
  exact ⟨⟨hm, hdata, place, hw, hspan⟩, actsAsBlank hm hdata place hw hspan⟩

/-- A comment behind the word that begins a block is read as if it were not there, so that the word
is not found. The block is cut at its first semicolon. -/
theorem not_alike_begin :
    let a := "BEGIN".toList
    let w := " c ".toList
    let b := "NULL;".toList
    Dialect.oracle.Reaches .code none (a ++ (blockComment w ++ b)) a .code (some 'N')
        (blockComment w ++ b) ∧
      ¬ ['*', '/'] <:+: w ∧ '\n' ∉ w ∧
      (∀ v ∈ [[], [' ']],
        ¬ ((({} : Draft).add .oracle (a ++ (blockComment w ++ b))).delimiter .oracle).Spans
          (leveled a ++ v) (leveled (Dialect.oracle.read .code none b).1)) ∧
      ¬ (({} : Draft).add .oracle (a ++ (blockComment w ++ b))).Alike .oracle
        (({} : Draft).add .oracle (a ++ ' ' :: b)) ∧
      Cutting.split ⟨.oracle, false⟩ [a ++ (blockComment w ++ b), "END;".toList, "/".toList] =
        [⟨1, "BEGIN/* c */NULL;".toList⟩, ⟨2, "END;".toList⟩, ⟨3, "/".toList⟩] ∧
      Cutting.split ⟨.oracle, false⟩ [a ++ ' ' :: b, "END;".toList, "/".toList] =
        [⟨1, "BEGIN NULL;\nEND;\n/".toList⟩] := by
  intro a w b
  refine ⟨?_, by decide, by decide, fun v _ => Delimiter.not_spans_of_length (by decide +kernel),
    fun h => ?_, by decide +kernel, by decide +kernel⟩
  · exact .token (k := ['B']) (.inCode rfl rfl rfl) (.token (k := ['E']) (.inCode rfl rfl rfl)
      (.token (k := ['G']) (.inCode rfl rfl rfl) (.token (k := ['I']) (.inCode rfl rfl rfl)
        (Dialect.Token.inCode rfl rfl rfl).reaches)))
  · have hdelimiter := h.delimiter
    revert hdelimiter
    decide +kernel

end Draft
end MigrationScript
