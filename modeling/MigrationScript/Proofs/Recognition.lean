import MigrationScript.Proofs.Heads

/-!
The recognition of program units and triggers, and the layout of the code that they begin with.
Main statement: after every line a statement is recognised if and only if the pattern of its
beginning fits the code of all its lines with plain white space, so that line breaks, blank lines
and comments among its first lines make no difference.
-/
namespace MigrationScript

open Text

namespace Dialect

variable {d : Dialect} {m : Mode} {b : Option Char} {c : Char} {k x y : Text}

/-- A line that is broken at white space in its code gives the code of its two parts, and the
second part leaves the mode that the line does. -/
theorem read_break (hc : isBlank c = true)
    (h : d.Reaches m none (x ++ c :: y) k .code b (c :: y)) :
    d.read m none x = (k, .code) ∧
      d.read m none (x ++ c :: y) = prepend (k ++ [c]) (d.read .code none y) := by
  have hword : (some c).any isWordChar = (none : Option Char).any isWordChar :=
    isWordChar_of_isBlank hc
  refine ⟨h.read_front, ?_⟩
  rw [h.read, read_token (.of_blank hc), read_before none fun _ => hword, prepend_prepend]

end Dialect

namespace Draft

variable {d : Dialect} {s s' : Draft} {a b block lines lines' : List Text}

/-- The words `BEGIN`, `CASE` and `END` of the next lines count. -/
def tracksBlocks (d : Dialect) (s : Draft) : Bool :=
  d.nestsBlocks && s.special

theorem depth_add (s : Draft) (line : Text) : (s.add d line).depth =
    if (s.add d line).tracksBlocks d then
      (wordRuns (s.scan d line).plainCode).foldl countWord s.depth
    else s.depth := rfl

theorem delimiter_ofLines (d : Dialect) (lines : List Text) : (ofLines d lines).delimiter d =
    if (ofLines d lines).special then d.specialDelimiter else d.delimiter := by
  rw [delimiter, override_ofLines]
  rfl

/-- Where no data follow, a line is scanned in the mode that it is met in, and nothing else of the
draft matters. -/
theorem scans_congr (hd : d.carriesData = false) (hm : s.mode = s'.mode) (lines : List Text) :
    s.scans d lines = s'.scans d lines := by
  induction lines generalizing s s' with
  | nil => rfl
  | cons line lines ih =>
    have hscan : s.scan d line = s'.scan d line := by
      simp [scan, readsData, hd, hm]
    have hnext : (s.add d line).mode = (s'.add d line).mode := by
      rw [mode_add, mode_add, hscan]
    rw [scans, scans, hscan, ih hnext]

/-- Two statements of which both were recognised as special, or neither. -/
structure SameStart (d : Dialect) (s s' : Draft) : Prop where
  delimiter : s.delimiter d = s'.delimiter d
  blocks : s.tracksBlocks d = s'.tracksBlocks d

/-- The layout of some lines has no influence on whether their statement is recognised: other lines
with the same words of code are like them; lines without code may stand among them, if they leave
no comment open that was not open before and close none; and lines may be broken at white space
in their code. -/
structure LayoutFree (d : Dialect) (lines : List Text) : Prop where
  words : ∀ lines', words (wholeCode d lines') = words (wholeCode d lines) →
    SameStart d (ofLines d lines') (ofLines d lines)
  inserted : ∀ a block b, lines = a ++ b →
    (∀ x ∈ (ofLines d a).scans d block, BlankCode x.code) →
    (ofLines d (a ++ block)).mode = (ofLines d a).mode →
    SameStart d (ofLines d (a ++ block ++ b)) (ofLines d lines)
  broken : ∀ a x c y b k before, lines = a ++ (x ++ c :: y) :: b → isBlank c = true →
    d.Reaches (ofLines d a).mode none (x ++ c :: y) k .code before (c :: y) →
    SameStart d (ofLines d (a ++ x :: y :: b)) (ofLines d lines)

theorem sameStart_of_words (hd : d.carriesData = false)
    (h : words (wholeCode d lines') = words (wholeCode d lines)) :
    SameStart d (ofLines d lines') (ofLines d lines) := by
  have hspecial : (ofLines d lines').special = (ofLines d lines).special := by
    rw [special_ofLines hd, special_ofLines hd, h]
  constructor
  · rw [delimiter_ofLines, delimiter_ofLines, hspecial]
  · rw [tracksBlocks, tracksBlocks, hspecial]

/-- Lines without code have no words, and the lines behind them are read as without them. -/
theorem words_inserted (hd : d.carriesData = false)
    (hblank : ∀ x ∈ (ofLines d a).scans d block, BlankCode x.code)
    (hmode : (ofLines d (a ++ block)).mode = (ofLines d a).mode) (b : List Text) :
    words (wholeCode d (a ++ block ++ b)) = words (wholeCode d (a ++ b)) := by
  have hnone : ((ofLines d a).scans d block).flatMap (fun x => words x.plainCode) = [] := by
    refine List.flatMap_eq_nil_iff.mpr fun x hx => ?_
    rw [Scan.plainCode_of_blank (hblank x hx)]
    rfl
  rw [words_wholeCode_append, words_wholeCode_append a block, words_wholeCode_append a b, hnone,
    List.append_nil, scans_congr hd hmode]

/-- The words on the two sides of white space are the same on one line and on two. -/
theorem words_broken {x y k : Text} {c : Char} {before : Option Char} (hd : d.carriesData = false)
    (hc : isBlank c = true)
    (h : d.Reaches (ofLines d a).mode none (x ++ c :: y) k .code before (c :: y)) (b : List Text) :
    words (wholeCode d (a ++ x :: y :: b)) = words (wholeCode d (a ++ (x ++ c :: y) :: b)) := by
  obtain ⟨hfront, hline⟩ := Dialect.read_break hc h
  have hdata (s : Draft) : s.readsData d = false := by simp [readsData, hd]
  obtain ⟨hcode, hmode⟩ := scan_of_code (hdata (ofLines d a)) (x ++ c :: y)
  obtain ⟨hxcode, hxmode⟩ := scan_of_code (hdata (ofLines d a)) x
  rw [hfront] at hxcode hxmode
  obtain ⟨hycode, hymode⟩ := scan_of_code (hdata ((ofLines d a).add d x)) y
  rw [hxmode] at hycode hymode
  have hmodes : (((ofLines d a).add d x).add d y).mode =
      ((ofLines d a).add d (x ++ c :: y)).mode := by
    rw [hmode, hymode, hline]
    rfl
  have hwords : words ((ofLines d a).scan d (x ++ c :: y)).plainCode =
      words ((ofLines d a).scan d x).plainCode ++
        words (((ofLines d a).add d x).scan d y).plainCode := by
    have hplain (z : Scan) : words z.plainCode = words (upper z.code) :=
      Scan.runs_plainCode (fun _ h => h) z
    have hblank : upper [c] = [c] := upper_of_blank (by simpa using hc)
    rw [hplain, hplain, hplain, hcode, hxcode, hycode, hline, prepend, upper_append, upper_append,
      hblank, List.append_assoc]
    exact runs_append_cut hc _ _
  rw [words_wholeCode_append, words_wholeCode_append]
  simp only [scans, List.flatMap_cons, hwords, List.append_assoc, scans_congr hd hmodes]

theorem layoutFree (hd : d.carriesData = false) (lines : List Text) : LayoutFree d lines where
  words := fun _ => sameStart_of_words hd
  inserted := by
    rintro a block b rfl hblank hmode
    exact sameStart_of_words hd (words_inserted hd hblank hmode b)
  broken := by
    rintro a x c y b k before rfl hc h
    exact sameStart_of_words hd (words_broken hd hc h b)

/-- After any lines, a program unit or a trigger is recognised by the code of all of them: the
pattern of its beginning fits that code, put in upper case and with plain white space. The lines may
be laid out in any way. -/
structure RecognisedByCode (lines : List Text) : Prop where
  programUnit : (ofLines .oracle lines).delimiter .oracle = ⟨['/'], true⟩ ↔
    Pattern.programUnit.fits (spaced (wholeCode .oracle lines)) = true
  trigger : (ofLines .sqlite lines).tracksBlocks .sqlite = true ↔
    Pattern.trigger.fits (spaced (wholeCode .sqlite lines)) = true
  layout : ∀ d ∈ [Dialect.oracle, .sqlite], LayoutFree d lines

theorem recognisedByCode (lines : List Text) : RecognisedByCode lines where
  programUnit := by
    rw [delimiter_ofLines, special_ofLines rfl, Dialect.isSpecial_words]
    split
    next h => exact iff_of_true rfl h
    next h => exact iff_of_false (by decide) h
  trigger := by
    rw [tracksBlocks, special_ofLines rfl, Dialect.isSpecial_words]
    exact Iff.rfl
  layout := by
    intro d hd
    refine layoutFree ?_ lines
    revert d
    decide

end Draft
end MigrationScript
