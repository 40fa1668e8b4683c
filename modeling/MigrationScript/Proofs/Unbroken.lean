import Mathlib.Data.List.Induction
import MigrationScript.Proofs.LineTails
import MigrationScript.Proofs.Numbering
import MigrationScript.Proofs.Stripping

/-!
What a statement's text leaves open when the delimiter that ended it is removed. A delimiter that
is alone goes with its whole line, also where the line closes a comment; any other is cut out of
its line, also where the code before it is read differently without it. Main statement: apart from
these two cases, nothing is left open.
-/
namespace MigrationScript

open Text

/-- The mode that a text leaves whose lines an empty draft takes in one after the other. -/
def Dialect.modeAfter (d : Dialect) (t : Text) : Mode :=
  (Draft.addAll d {} (pieces (· == '\n') t)).mode

/-- The text of a statement in front of the place where its delimiter is cut out. -/
def Draft.front (d : Dialect) (s : Draft) : Text :=
  joinLines (s.lines.dropLast ++ [s.lastLine.take (s.stop - (s.delimiter d).text.length)])

/-- No character of the delimiter ends a literal of the dialect, and only the last one may be the
slash that ends comments. -/
def Dialect.IsHarmless (d : Dialect) (x : Delimiter) : Prop :=
  (∀ c ∈ x.text, d.closes c = false) ∧ '/' ∉ x.text.dropLast

instance (d : Dialect) (x : Delimiter) : Decidable (d.IsHarmless x) :=
  inferInstanceAs (Decidable (_ ∧ _))

theorem Dialect.uncased_of_closes {d : Dialect} {c : Char} (h : d.closes c = true) :
    0 < c.toNat ∧ isUncased c = true ∧ isBlank c = false := by
  have hc : c = '\x27' ∨ c = '"' ∨ c = '\x60' ∨ c = ']' ∨ c = '$' := by
    simp only [closes, Bool.or_eq_true, Bool.and_eq_true, beq_iff_eq] at h
    grind
  rcases hc with rfl | rfl | rfl | rfl | rfl <;> decide

theorem Text.mem_trim {c : Char} {t : Text} (hc : c ∈ t) (hb : isBlank c = false) : c ∈ trim t := by
  have hstart : c ∈ trimStart t := by
    rw [← List.takeWhile_append_dropWhile (p := isBlank) (l := t)] at hc
    rcases List.mem_append.mp hc with hc | hc
    · rw [List.all_eq_true.mp List.all_takeWhile c hc] at hb
      contradiction
    · exact hc
  obtain ⟨w, hw, hblank⟩ := dropEnd_append isBlank (trimStart t)
  rw [hw] at hstart
  rcases List.mem_append.mp hstart with hc | hc
  · exact hc
  · rw [hblank c hc] at hb
    contradiction

/-- An ASCII character that is no letter is found in the compared form of a code too. -/
theorem Scan.mem_plainCode {s : Scan} {c : Char} (hc : c ∈ s.code) (hb : isBlank c = false)
    (hpos : 0 < c.toNat) (hu : isUncased c = true) : c ∈ s.plainCode := by
  refine (mem_upper_iff hpos hu).mpr (mem_trim (List.mem_map.mpr ⟨c, hc, if_neg ?_⟩) hb)
  rintro rfl
  revert hb
  decide

namespace Draft

variable {d : Dialect} {s : Draft} {c : Char} {line : Text}

theorem mode_add_nil (d : Dialect) (s : Draft) : (s.add d []).mode = s.mode := by
  cases h : s.readsData d with
  | true => exact mode_add_of_data h []
  | false => rw [(scan_of_code h _).2, Dialect.read_nil]

theorem mode_add_append_blank (hm : s.mode.Proper) (hc : isBlank c = true) (line : Text) :
    (s.add d (line ++ [c])).mode = (s.add d line).mode := by
  cases h : s.readsData d with
  | true => rw [mode_add_of_data h, mode_add_of_data h]
  | false => rw [(scan_of_code h _).2, (scan_of_code h _).2, Dialect.mode_append_blank hm hc]

end Draft

namespace Dialect

variable {d : Dialect} {t w : Text} {c : Char} {lines : List Text}

theorem modeAfter_joinLines (hl : ∀ line ∈ lines, '\n' ∉ line) :
    d.modeAfter (joinLines lines) = (Draft.addAll d {} lines).mode := by
  by_cases hne : lines = []
  · subst hne
    exact Draft.mode_add_nil d {}
  · rw [modeAfter, pieces_joinLines hne hl]

theorem modeAfter_append_blank (hw : ∀ c ∈ w, isBlank c = true) :
    d.modeAfter (t ++ w) = d.modeAfter t := by
  induction w using List.reverseRecOn with
  | nil => rw [List.append_nil]
  | append_singleton w c ih =>
    have hc : isBlank c = true := hw c (by simp)
    rw [← ih fun e he => hw e (List.mem_append_left _ he), ← List.append_assoc]
    obtain ⟨earlier, last, ht, htc⟩ := pieces_concat (t ++ w) c
    have hm : (Draft.addAll d {} earlier).mode.Proper := Draft.proper_addAll (s := {}) trivial earlier
    rw [modeAfter, modeAfter, ht, htc]
    split
    · rw [← List.singleton_append, ← List.append_assoc, Draft.addAll_concat, Draft.mode_add_nil]
    · rw [Draft.addAll_concat, Draft.addAll_concat, Draft.mode_add_append_blank hm hc]

theorem modeAfter_trimEnd (t : Text) : d.modeAfter (trimEnd t) = d.modeAfter t := by
  obtain ⟨w, ht, hw⟩ := dropEnd_append isBlank t
  rw [← modeAfter_append_blank hw]
  exact congrArg d.modeAfter ht.symm

end Dialect

namespace Draft

variable {d : Dialect} {s : Draft} {earlier : List Text} {last : Text}

/-- Where no data are read, only the mode of a draft decides what modes come. -/
private theorem mode_addAll_congr (hd : d.carriesData = false) {t : Draft} (h : s.mode = t.mode)
    (lines : List Text) : (s.addAll d lines).mode = (t.addAll d lines).mode := by
  induction lines generalizing s t with
  | nil => exact h
  | cons line lines ih =>
    refine ih ?_
    rw [(scan_of_code (by simp [readsData, hd]) _).2, (scan_of_code (by simp [readsData, hd]) _).2, h]

/-- A statement of a script leaves the mode that its lines leave in an empty draft. -/
theorem mode_addAll_origin (ho : ∀ x, s.override = some x → d.Sets x) (lines : List Text) :
    (Draft.addAll d {} lines).mode = (s.origin.addAll d lines).mode := by
  cases hx : s.override with
  | none =>
    have hs : s.origin = ({} : Draft).shift s.line := by simp [origin, shift, hx]
    rw [hs, addAll_shift]
    rfl
  | some x =>
    obtain rfl := (ho x hx).eq_mysql
    exact mode_addAll_congr (s := {}) (t := s.origin) rfl rfl lines

theorem modeAfter_lines (ho : ∀ x, s.override = some x → d.Sets x) {lines : List Text}
    (hl : ∀ line ∈ lines, '\n' ∉ line) :
    d.modeAfter (joinLines lines) = (s.origin.addAll d lines).mode := by
  rw [Dialect.modeAfter_joinLines hl, mode_addAll_origin ho]

theorem modeAfter_concat (ho : ∀ x, s.override = some x → d.Sets x)
    (hl : ∀ line ∈ earlier ++ [last], '\n' ∉ line)
    (hdata : (s.origin.addAll d earlier).readsData d = false) :
    d.modeAfter (joinLines (earlier ++ [last])) =
      (d.read (s.origin.addAll d earlier).mode none last).2 := by
  rw [modeAfter_lines ho hl, addAll_concat, (scan_of_code hdata _).2]

/-- The last line of a statement that is ended. -/
theorem Assembled.exists_last (ha : s.Assembled d) (ht : s.terminated = true) :
    ∃ earlier last, s.lines = earlier ++ [last] ∧ (s.origin.addAll d earlier).add d last = s ∧
      s.mode = .code ∧
      (s.delimiter d).ends ((s.origin.addAll d earlier).scan d last).plainCode = true := by
  obtain ⟨earlier, last, hlines, hmode, -, hends⟩ := (ha.ends ht).exists_last
  rw [ha.eq] at hmode hends
  refine ⟨earlier, last, hlines, ?_, hmode, hends⟩
  rw [← addAll_concat, ← hlines, ha.eq]

theorem modeAfter_text (ha : s.Assembled d) (ht : s.terminated = true)
    (ho : ∀ x, s.override = some x → d.Sets x) (hl : ∀ line ∈ s.lines, '\n' ∉ line) :
    d.modeAfter s.text = .code := by
  obtain ⟨-, -, -, -, hmode, -⟩ := ha.exists_last ht
  rw [text, modeAfter_lines ho hl, ha.eq, hmode]

/-- A literal of a script's statement is one of the dialect. -/
theorem hasLiteral_of_mode {l : Literal} (h : (s.origin.addAll d earlier).mode = .literal l) :
    d.HasLiteral l := by
  rcases literal_addAll h with hl | hl
  · contradiction
  · exact hl

/-- A literal that a text leaves gives its closing mark to the code. -/
private theorem closer_subset {l : Literal} {b : Option Char} {t : Text}
    (h : (d.read (.literal l) b t).2 = .code) : l.closer.text ⊆ (d.read (.literal l) b t).1 := by
  cases hn : l.close? t with
  | none =>
    rw [Dialect.read_literal_none hn] at h
    contradiction
  | some n =>
    rw [Dialect.read_literal_some hn]
    exact List.subset_append_left _ _

/-- No delimiter that must be alone has a character that ends literals. -/
private theorem not_closes_of_alone (ho : ∀ x, s.override = some x → d.Sets x)
    (hx : (s.delimiter d).alone = true) : ∀ c ∈ (s.delimiter d).text, d.closes c = false := by
  cases h : s.override with
  | some x =>
    rw [delimiter, h, Option.getD_some, (ho x h).alone] at hx
    contradiction
  | none =>
    rw [delimiter, h, Option.getD_none] at hx ⊢
    split at hx <;> split <;> cases d <;> first | contradiction | decide

/-- The line that such a delimiter makes up starts in no literal. -/
theorem not_literal_of_alone (ho : ∀ x, s.override = some x → d.Sets x)
    (hx : (s.delimiter d).alone = true) (hadd : (s.origin.addAll d earlier).add d last = s)
    (hmode : s.mode = .code)
    (hends : (s.delimiter d).ends ((s.origin.addAll d earlier).scan d last).plainCode = true)
    (l : Literal) : (s.origin.addAll d earlier).mode ≠ .literal l := by
  intro hl
  have hread := hmode
  rw [← hadd] at hread
  cases hdata : (s.origin.addAll d earlier).readsData d with
  | true =>
    rw [mode_add_of_data hdata, hl] at hread
    contradiction
  | false =>
    rw [(scan_of_code hdata _).2, hl] at hread
    obtain ⟨o, ho', rfl⟩ := hasLiteral_of_mode hl
    obtain ⟨q, hq, hcloses⟩ := ho'.closes
    obtain ⟨hpos, hcased, hblank⟩ := Dialect.uncased_of_closes hcloses
    have hcode : q ∈ ((s.origin.addAll d earlier).scan d last).code := by
      rw [(scan_of_code hdata _).1, hl]
      exact closer_subset hread (List.mem_of_getLast? hq)
    have hmem := Scan.mem_plainCode hcode hblank hpos hcased
    rw [Delimiter.ends, if_pos hx, beq_iff_eq] at hends
    rw [hends, mem_upper_iff hpos hcased] at hmem
    rw [not_closes_of_alone ho hx q hmem] at hcloses
    contradiction

/-- The last line of a statement whose delimiter is cut out of it: what stands in front of the
delimiter, the delimiter as it is written, and comments. -/
structure CutsMark (d : Dialect) (s : Draft) (earlier : List Text) (front mark tail : Text) :
    Prop where
  lines : s.lines = earlier ++ [front ++ (mark ++ tail)]
  same : upper mark = upper (s.delimiter d).text
  before : s.front d = joinLines (earlier ++ [front])
  behind : s.lastLine.drop s.stop = tail
  cut : s.strippedText d = trimEnd (joinLines (earlier ++ [trimEnd front ++ tail]))
  noData : (s.origin.addAll d earlier).readsData d = false
  code : (d.read (s.origin.addAll d earlier).mode none (front ++ mark)).2 = .code
  comments : OnlyComments d false tail false
  /-- The last character of the delimiter may be taken away, unless it ends a literal. -/
  last : ∀ m z, mark = m ++ [z] → d.closes z = false →
    (d.read (s.origin.addAll d earlier).mode none (front ++ m)).2 = .code

/-- The last line of a statement that ends at a delimiter with other code before it: the scan of
that line tells where its code ends, and it leaves no literal and no comment open. -/
theorem exists_lastScan (ha : s.Assembled d) (ht : s.terminated = true)
    (hx : (s.delimiter d).alone = false) :
    ∃ earlier last, s.lines = earlier ++ [last] ∧
      (s.origin.addAll d earlier).readsData d = false ∧
      s.stop = Piece.codeEnd (scanFrom d (s.origin.addAll d earlier).mode none last).1 ∧
      (scanFrom d (s.origin.addAll d earlier).mode none last).2 = .code := by
  obtain ⟨earlier, last, hlines, hadd, hmode, -⟩ := ha.exists_last ht
  have hdata : (s.origin.addAll d earlier).readsData d = false := by
    have halone : ((s.origin.addAll d (earlier ++ [last])).delimiter d).alone = false := by
      rw [addAll_concat, hadd, hx]
    exact readsData_of_not_alone rfl halone
  refine ⟨earlier, last, hlines, hdata, ?_, ?_⟩
  · calc s.stop
      _ = ((s.origin.addAll d earlier).add d last).stop := by rw [hadd]
      _ = ((s.origin.addAll d earlier).scan d last).stop := stop_add
      _ = _ := by rw [scan, hdata]; rfl
  · rw [← hmode]
    exact (scan_of_code hdata last).2.symm.trans (congrArg mode hadd)

/-- The last character of the last solid piece may be taken away, unless it ends a literal. -/
theorem code_of_dropLast {m : Mode} {b : Option Char} {t u : Text} {z : Char}
    {front back : List Piece} {p : Piece} (hm : ∀ l, m = .literal l → d.HasLiteral l)
    (hscan : (scanFrom d m b t).2 = .code) (hp : LastSolid (scanFrom d m b t).1 front p back)
    (hu : front.flatMap Piece.text ++ p.text = u ++ [z]) (hz : d.closes z = false) :
    (d.read m b u).2 = .code := by
  cases p with
  | code c =>
    rw [← List.append_inj_left' hu rfl]
    exact (code_of_lastSolid hm hscan hp).2.2 c rfl
  | mark k =>
    obtain ⟨l, rfl, hl⟩ := closes_of_lastSolid hscan hp
    obtain ⟨o, hopens, rfl⟩ : d.HasLiteral l := hl.elim (hm l) id
    obtain ⟨q, hq, hcloses⟩ := hopens.closes
    have hlast := congrArg List.getLast? hu
    rw [Piece.text_mark, List.getLast?_append, hq, List.getLast?_concat] at hlast
    obtain rfl : q = z := by simpa using hlast
    rw [hz] at hcloses
    contradiction
  | hidden t => exact absurd hp.solid Bool.false_ne_true

theorem exists_cutsMark (ha : s.Assembled d) (ht : s.terminated = true)
    (ho : ∀ x, s.override = some x → d.Sets x) (hx : (s.delimiter d).alone = false)
    (hholds : s.holdsDelimiter d = true) :
    ∃ earlier front mark tail, s.CutsMark d earlier front mark tail := by
  obtain ⟨earlier, last, hlines, hdata, hstop, hscan⟩ := exists_lastScan ha ht hx
  have hlastLine : s.lastLine = last := by simp [lastLine, hlines]
  obtain ⟨hlen, hsame⟩ := Bool.and_eq_true_iff.mp hholds
  have hlen : (s.delimiter d).text.length ≤ s.stop := of_decide_eq_true hlen
  have hsame := beq_iff_eq.mp hsame
  have hpos := List.length_pos_iff.mpr (delimiter_text_ne_nil ho)
  rcases Piece.exists_lastSolid (scanFrom d (s.origin.addAll d earlier).mode none last).1 with
    hgap | ⟨ps, p, qs, hp⟩
  · rw [hstop, Piece.codeEnd_eq_zero hgap] at hlen
    omega
  obtain ⟨hcode, hcomments, -⟩ := code_of_lastSolid (fun l => hasLiteral_of_mode) hscan hp
  have htext := text_scanFrom d (s.origin.addAll d earlier).mode none last
  rw [text_of_lastSolid hp, ← List.append_assoc] at htext
  rw [Piece.codeEnd_of_lastSolid hp, ← List.length_append] at hstop
  generalize hA : ps.flatMap Piece.text ++ p.text = A at hcode htext hstop
  have htake : last.take s.stop = A := by rw [← htext, hstop, List.take_left]
  have hdrop : last.drop s.stop = qs.flatMap Piece.text := by rw [← htext, hstop, List.drop_left]
  have hfront : last.take (s.stop - (s.delimiter d).text.length) =
      A.take (s.stop - (s.delimiter d).text.length) := by
    rw [← htext, hstop, List.take_append_of_le_length (Nat.sub_le _ _)]
  have hsplit : A.take (s.stop - (s.delimiter d).text.length) ++
      A.drop (s.stop - (s.delimiter d).text.length) = A := List.take_append_drop _ A
  refine ⟨earlier, A.take (s.stop - (s.delimiter d).text.length),
    A.drop (s.stop - (s.delimiter d).text.length), qs.flatMap Piece.text, ?_⟩
  constructor
  · rw [← List.append_assoc, hsplit, htext, hlines]
  · rw [← hsame, hlastLine, htake]
  · rw [Draft.front, hlastLine, hfront, hlines, List.dropLast_concat]
  · rw [hlastLine, hdrop]
  · rw [strippedText, hx, if_neg Bool.false_ne_true, if_pos hholds]
    simp only [hlastLine, hfront, hdrop, hlines, List.dropLast_concat]
  · exact hdata
  · rw [hsplit]
    exact hcode
  · exact hcomments
  · intro m z hz hcloses
    rw [hz, ← List.append_assoc] at hsplit
    exact code_of_dropLast (fun l => hasLiteral_of_mode) hscan hp (hA.trans hsplit.symm) hcloses

/-- Characters that end no comment and no literal may be taken from the end of a text. -/
private theorem code_of_append {m : Mode} {t u : Text} (hm : ∀ l, m = .literal l → d.HasLiteral l)
    (hu : ∀ c ∈ u, c ≠ '/' ∧ d.closes c = false) (h : (d.read m none (t ++ u)).2 = .code) :
    (d.read m none t).2 = .code := by
  induction u using List.reverseRecOn with
  | nil => rwa [List.append_nil] at h
  | append_singleton u c ih =>
    obtain ⟨hslash, hc⟩ := hu c (by simp)
    rw [← List.append_assoc] at h
    exact ih (fun e he => hu e (List.mem_append_left _ he))
      (Dialect.code_of_concat hm hslash hc h)

namespace CutsMark

variable {front mark tail : Text}

private theorem newlineFree (h : s.CutsMark d earlier front mark tail)
    (hl : ∀ line ∈ s.lines, '\n' ∉ line) {line : Text} (hline : line ⊆ front ++ tail) :
    ∀ t ∈ earlier ++ [line], '\n' ∉ t := by
  intro t ht hn
  rw [h.lines] at hl
  rcases List.mem_append.mp ht with ht | ht
  · exact hl t (List.mem_append_left _ ht) hn
  · obtain rfl := List.mem_singleton.mp ht
    refine hl _ (List.mem_append_right _ List.mem_cons_self) ?_
    rcases List.mem_append.mp (hline hn) with hf | hf
    · exact List.mem_append_left _ hf
    · exact List.mem_append_right _ (List.mem_append_right _ hf)

theorem modeAfter_front (h : s.CutsMark d earlier front mark tail)
    (ho : ∀ x, s.override = some x → d.Sets x) (hl : ∀ line ∈ s.lines, '\n' ∉ line) :
    d.modeAfter (s.front d) = (d.read (s.origin.addAll d earlier).mode none front).2 := by
  rw [h.before, modeAfter_concat ho (h.newlineFree hl (List.subset_append_left _ _)) h.noData]

theorem modeAfter_cut (h : s.CutsMark d earlier front mark tail)
    (ho : ∀ x, s.override = some x → d.Sets x) (hl : ∀ line ∈ s.lines, '\n' ∉ line) :
    d.modeAfter (s.strippedText d) =
      (d.read (s.origin.addAll d earlier).mode none (trimEnd front ++ tail)).2 := by
  have hsub : trimEnd front ++ tail ⊆ front ++ tail :=
    List.append_subset.mpr ⟨List.Subset.trans (trimEnd_subset front) (List.subset_append_left _ _),
      List.subset_append_right _ _⟩
  rw [h.cut, Dialect.modeAfter_trimEnd, modeAfter_concat ho (h.newlineFree hl hsub) h.noData]

/-- Nothing is left open if nothing is in front of the delimiter. -/
theorem code_cut (h : s.CutsMark d earlier front mark tail)
    (hfront : (d.read (s.origin.addAll d earlier).mode none front).2 = .code) :
    (d.read (s.origin.addAll d earlier).mode none (trimEnd front ++ tail)).2 = .code := by
  have hm : (s.origin.addAll d earlier).mode.Proper := proper_addAll (s := s.origin) trivial earlier
  refine Dialect.code_append h.comments ?_
  rw [Dialect.mode_trimEnd hm, hfront]

/-- The code in front of a harmless delimiter leaves nothing open. -/
theorem code_front (h : s.CutsMark d earlier front mark tail)
    (ho : ∀ x, s.override = some x → d.Sets x) (hx : d.IsHarmless (s.delimiter d)) :
    (d.read (s.origin.addAll d earlier).mode none front).2 = .code := by
  have hne : mark ≠ [] := by
    rintro rfl
    exact upper_ne_nil (delimiter_text_ne_nil ho) h.same.symm
  have hmark {c : Char} (hc : c ∈ mark) : d.closes c = false := by
    rw [← Bool.not_eq_true]
    intro hcloses
    obtain ⟨hpos, hcased, -⟩ := Dialect.uncased_of_closes hcloses
    rw [← mem_upper_iff hpos hcased, h.same, mem_upper_iff hpos hcased] at hc
    rw [hx.1 c hc] at hcloses
    contradiction
  have hslash : '/' ∉ mark.dropLast := by
    rw [← mem_dropLast_upper_iff (by decide) (by decide), h.same,
      mem_dropLast_upper_iff (by decide) (by decide)]
    exact hx.2
  rw [← List.dropLast_concat_getLast hne] at hmark
  refine code_of_append (fun l hl => hasLiteral_of_mode hl) ?_
    (h.last mark.dropLast (mark.getLast hne) (List.dropLast_concat_getLast hne).symm
      (hmark (by simp)))
  intro c hc
  refine ⟨?_, hmark (List.mem_append_left _ hc)⟩
  rintro rfl
  exact hslash hc

end CutsMark

/-- A delimiter that is alone leaves a comment open if its line closes one, and nothing else. -/
theorem alone_code_iff (ha : s.Assembled d) (ht : s.terminated = true)
    (ho : ∀ x, s.override = some x → d.Sets x) (hl : ∀ line ∈ s.lines, '\n' ∉ line)
    (hx : (s.delimiter d).alone = true) :
    d.modeAfter (s.strippedText d) = .code ↔
      d.modeAfter (joinLines s.lines.dropLast) ≠ .comment := by
  obtain ⟨earlier, last, hlines, hadd, hmode, hends⟩ := ha.exists_last ht
  have hcut : s.strippedText d = trimEnd (joinLines s.lines.dropLast) := by
    obtain ⟨earlier', last', hlines', hcut⟩ := strippedText_of_alone ha ht ho hx hl
    rw [hcut, hlines', List.dropLast_concat]
  rw [hlines, List.dropLast_concat] at hcut ⊢
  rw [hlines] at hl
  rw [hcut, Dialect.modeAfter_trimEnd,
    modeAfter_lines ho fun line hline => hl line (List.mem_append_left _ hline)]
  have hno := not_literal_of_alone ho hx hadd hmode hends
  cases hm : (s.origin.addAll d earlier).mode with
  | code => simp
  | comment => simp
  | literal l => exact absurd hm (hno l)

end Draft

/-- What a text leaves open when the delimiter at its end is removed, for the statements of a
script. -/
structure LeavesUnbroken (d : Dialect) (lines : List Text) (ss : List Draft) : Prop where
  whole : Cutting.split ⟨d, false⟩ lines = ss.map (Draft.finish d false)
  cut : Cutting.split ⟨d, true⟩ lines = ss.map (Draft.finish d true)
  /-- With their delimiters, the texts leave nothing open. -/
  closed : ∀ s ∈ ss, s.terminated = true → d.modeAfter (s.finish d false).sql = .code
  /-- A delimiter that is alone takes along a closing mark on its line. -/
  alone : ∀ s ∈ ss, s.terminated = true → (s.delimiter d).alone = true →
    (d.modeAfter (s.finish d true).sql = .code ↔
      d.modeAfter (joinLines s.lines.dropLast) ≠ .comment)
  /-- A delimiter with a comment inside is left where it is. -/
  kept : ∀ s ∈ ss, s.terminated = true → (s.delimiter d).alone = false →
    s.holdsDelimiter d = false → d.modeAfter (s.finish d true).sql = .code
  /-- Comments behind a delimiter do no harm. -/
  front : ∀ s ∈ ss, s.terminated = true → (s.delimiter d).alone = false →
    s.holdsDelimiter d = true → d.modeAfter (s.front d) = .code →
    d.modeAfter (s.finish d true).sql = .code
  /-- Without comments behind it, all depends on what is in front of a delimiter. -/
  bare : ∀ s ∈ ss, s.terminated = true → (s.delimiter d).alone = false →
    s.holdsDelimiter d = true → (∀ c ∈ s.lastLine.drop s.stop, isBlank c = true) →
    d.modeAfter (s.finish d true).sql = d.modeAfter (s.front d)
  harmless : ∀ s ∈ ss, s.terminated = true → (s.delimiter d).alone = false →
    d.IsHarmless (s.delimiter d) → d.modeAfter (s.finish d true).sql = .code

namespace Draft

variable {d : Dialect} {s : Draft}

theorem finish_cut (ht : s.terminated = true) : (s.finish d true).sql = s.strippedText d := by
  simp [finish, ht]

theorem finish_whole : (s.finish d false).sql = s.text := by
  simp [finish]

theorem strippedText_kept (hx : (s.delimiter d).alone = false) (h : s.holdsDelimiter d = false) :
    s.strippedText d = s.text := by
  simp [strippedText, hx, h]

theorem code_kept (ha : s.Assembled d) (ht : s.terminated = true)
    (ho : ∀ x, s.override = some x → d.Sets x) (hl : ∀ line ∈ s.lines, '\n' ∉ line)
    (hx : (s.delimiter d).alone = false) (h : s.holdsDelimiter d = false) :
    d.modeAfter (s.finish d true).sql = .code := by
  rw [finish_cut ht, strippedText_kept hx h, modeAfter_text ha ht ho hl]

end Draft

open Draft

theorem leavesUnbroken (d : Dialect) (lines : List Text) (hl : ∀ line ∈ lines, '\n' ∉ line) :
    LeavesUnbroken d lines (Progress.drafts d {} lines) := by
  have hlines : ∀ s ∈ Progress.drafts d {} lines, ∀ line ∈ s.lines, '\n' ∉ line :=
    fun s hs line hline => hl line ((Progress.assembled_drafts d lines s hs).2 hline)
  have hall : ∀ s ∈ Progress.drafts d {} lines, s.Assembled d :=
    fun s hs => (Progress.assembled_drafts d lines s hs).1
  have hsets := Progress.sets_override_drafts d lines
  constructor
  case whole => exact Cutting.split_eq _ _
  case cut => exact Cutting.split_eq _ _
  case closed =>
    intro s hs ht
    rw [finish_whole, modeAfter_text (hall s hs) ht (hsets s hs) (hlines s hs)]
  case alone =>
    intro s hs ht hx
    rw [finish_cut ht]
    exact alone_code_iff (hall s hs) ht (hsets s hs) (hlines s hs) hx
  case kept =>
    intro s hs ht hx hholds
    exact code_kept (hall s hs) ht (hsets s hs) (hlines s hs) hx hholds
  case front =>
    intro s hs ht hx hholds hfront
    obtain ⟨earlier, front, mark, tail, h⟩ :=
      exists_cutsMark (hall s hs) ht (hsets s hs) hx hholds
    rw [h.modeAfter_front (hsets s hs) (hlines s hs)] at hfront
    rw [finish_cut ht, h.modeAfter_cut (hsets s hs) (hlines s hs), h.code_cut hfront]
  case bare =>
    intro s hs ht hx hholds hblank
    obtain ⟨earlier, front, mark, tail, h⟩ :=
      exists_cutsMark (hall s hs) ht (hsets s hs) hx hholds
    rw [h.behind] at hblank
    have hm : (s.origin.addAll d earlier).mode.Proper :=
      proper_addAll (s := s.origin) trivial earlier
    rw [finish_cut ht, h.modeAfter_cut (hsets s hs) (hlines s hs),
      h.modeAfter_front (hsets s hs) (hlines s hs), Dialect.mode_append_blanks hm hblank,
      Dialect.mode_trimEnd hm]
  case harmless =>
    intro s hs ht hx hharmless
    cases hholds : s.holdsDelimiter d with
    | false => exact code_kept (hall s hs) ht (hsets s hs) (hlines s hs) hx hholds
    | true =>
      obtain ⟨earlier, front, mark, tail, h⟩ :=
        exists_cutsMark (hall s hs) ht (hsets s hs) hx hholds
      rw [finish_cut ht, h.modeAfter_cut (hsets s hs) (hlines s hs),
        h.code_cut (h.code_front (hsets s hs) hharmless)]

/-- The usual delimiter is harmless everywhere. -/
example (d : Dialect) : d.IsHarmless .semicolon := by
  cases d <;> decide

/-- A comment behind a delimiter. -/
theorem leavesUnbroken_trailing_comment :
    (∀ line ∈ ["DELIMITER $$".toList, "SELECT 1 $$ /* $$ */".toList], '\n' ∉ line) ∧
      LeavesUnbroken .mysql ["DELIMITER $$".toList, "SELECT 1 $$ /* $$ */".toList]
        (Progress.drafts .mysql {} ["DELIMITER $$".toList, "SELECT 1 $$ /* $$ */".toList]) :=
  ⟨by decide, leavesUnbroken .mysql _ (by decide)⟩

/-- A comment is closed on the line of a delimiter that is alone, or between the characters of a
delimiter. -/
theorem not_closed_without_delimiter :
    Cutting.find ⟨.tsql, true⟩ ["SELECT 1".toList, "/* a".toList, "*/ GO".toList] =
        [⟨⟨1, "SELECT 1\n/* a".toList⟩, true⟩] ∧
      Dialect.tsql.modeAfter "SELECT 1\n/* a".toList = .comment ∧
      Cutting.find ⟨.mysql, true⟩ ["DELIMITER //".toList, "SELECT 1 //* c *//".toList] =
        [⟨⟨2, "SELECT 1 //* c *".toList⟩, true⟩] ∧
      Dialect.mysql.modeAfter "SELECT 1 //* c *".toList = .comment := by
  decide +kernel

end MigrationScript
