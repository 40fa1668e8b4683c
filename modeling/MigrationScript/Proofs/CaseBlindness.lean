import MigrationScript.Proofs.Capitals
import MigrationScript.Proofs.Parallel
import MigrationScript.Proofs.Reading

/-!
Letter case in scripts. In the dialects whose literals are quoted by single characters no step of
the splitting tells the two forms of an ASCII letter apart. Main statement: the statements of a
script in capitals are the statements of the script, in capitals.
-/
namespace MigrationScript

open Text

namespace Dialect

/-- The dialects whose literals are all quoted by single characters. -/
def plainlyQuoted : List Dialect :=
  [generic, mysql, sqlite, tsql]

variable {d : Dialect} {l : Literal} {o : Opener}

theorem opener?_of_plainlyQuoted (hd : d ∈ plainlyQuoted) (b : Option Char) (c : Char) (t : Text) :
    d.opener? b (c :: t) = d.quote? c := by
  have ho : d ≠ oracle := by
    rintro rfl
    contradiction
  have hp : d ≠ postgres := by
    rintro rfl
    contradiction
  simp [opener?, ho, hp]

theorem Opens.uncased (h : d.Opens o) (hd : d ∈ plainlyQuoted) :
    o.mark.text.Uncased ∧ o.literal.closer.text.Uncased := by
  cases h with
  | quotation hc => rcases hc with rfl | rfl <;> exact ⟨by simp only [Mark.text]; decide, by simp only [Mark.text]; decide⟩
  | backtick => exact ⟨by decide, by decide⟩
  | bracket => exact ⟨by decide, by decide⟩
  | alternative ho =>
    subst ho
    contradiction
  | national ho =>
    subst ho
    contradiction
  | dollar hp =>
    subst hp
    contradiction

theorem HasLiteral.uncased (h : d.HasLiteral l) (hd : d ∈ plainlyQuoted) :
    l.closer.text.Uncased := by
  obtain ⟨o, ho, rfl⟩ := h
  exact (ho.uncased hd).2

theorem quote?_toUpper (d : Dialect) (c : Char) : d.quote? c.toUpper = d.quote? c :=
  apply_toUpper d.quote? (by cases d <;> decide) c

theorem startsLineComment_capitals (d : Dialect) (t : Text) :
    d.startsLineComment (capitals t) = d.startsLineComment t := by
  rw [startsLineComment, startsLineComment, isPrefixOf_capitals (by decide),
    isPrefixOf_capitals (by decide)]

end Dialect

theorem startsBlockComment_capitals (t : Text) :
    startsBlockComment (capitals t) = startsBlockComment t :=
  isPrefixOf_capitals (by decide) t

theorem endsBlockComment_capitals (t : Text) :
    endsBlockComment (capitals t) = endsBlockComment t :=
  isSuffixOf_capitals (by decide) t

theorem Literal.close?_capitals {l : Literal} (hl : l.closer.text.Uncased) (t : Text) :
    l.close? (capitals t) = l.close? t := by
  have hslash (c : Char) : (c.toUpper == '\\') = (c == '\\') := toUpper_beq (by decide) c
  fun_induction Literal.close? l t with
  | case1 => rfl
  | case2 c he =>
    rw [capitals_cons, Literal.close?.eq_def]
    simp [hslash, he]
  | case3 c he e t ih =>
    rw [capitals_cons, capitals_cons, Literal.close?.eq_def]
    simp [hslash, he, ih]
  | case4 c t he hm =>
    rw [← isPrefixOf_capitals hl, capitals_cons] at hm
    rw [capitals_cons, Literal.close?.eq_def]
    simp [hslash, he, hm]
  | case5 c t he hm ih =>
    rw [← isPrefixOf_capitals hl, capitals_cons] at hm
    rw [capitals_cons, Literal.close?.eq_def]
    simp [hslash, he, hm, ih]

namespace Mark

def capitals (m : Mark) : Mark :=
  ⟨m.first.toUpper, m.more.capitals⟩

theorem text_capitals (m : Mark) : m.capitals.text = m.text.capitals := rfl

theorem capitals_of_uncased {m : Mark} (h : m.text.Uncased) : m.capitals = m := by
  obtain ⟨hfirst, hmore⟩ := List.forall_mem_cons.mp h
  rw [capitals, toUpper_of_uncased hfirst, Text.capitals_of_uncased hmore]

end Mark

namespace Piece

def capitals : Piece → Piece
  | code c => code c.toUpper
  | mark m => mark m.capitals
  | hidden t => hidden t.capitals

theorem text_capitals (p : Piece) : p.capitals.text = p.text.capitals := by
  cases p <;> rfl

theorem kept_capitals (p : Piece) : p.capitals.kept = p.kept.capitals := by
  cases p <;> rfl

theorem isSolid_capitals (p : Piece) : p.capitals.isSolid = p.isSolid := by
  cases p with
  | code c => simp [capitals, isSolid, isBlank_toUpper]
  | _ => rfl

theorem codeOf_capitals (ps : List Piece) :
    codeOf (ps.map capitals) = (codeOf ps).capitals := by
  induction ps with
  | nil => rfl
  | cons p ps ih =>
    simp only [codeOf] at ih
    simp only [codeOf, List.map_cons, List.flatMap_cons, ih, kept_capitals, Text.capitals_append]

theorem codeEnd_capitals (ps : List Piece) : codeEnd (ps.map capitals) = codeEnd ps := by
  induction ps with
  | nil => rfl
  | cons p ps ih => simp only [List.map_cons, codeEnd, ih, isSolid_capitals, text_capitals, length_capitals]

end Piece

section Scan

variable {d : Dialect} {m : Mode}

/-- A scan of a text in capitals. -/
theorem scanFrom_capitals (hd : d ∈ Dialect.plainlyQuoted)
    (hm : ∀ l, m = .literal l → d.HasLiteral l) (b b' : Option Char) (t : Text) :
    scanFrom d m b' (capitals t) =
      ((scanFrom d m b t).1.map Piece.capitals, (scanFrom d m b t).2) := by
  fun_induction scanFrom d m b t generalizing b' with
  | case1 => simp [scanFrom]
  | case2 before c rest hn =>
    rw [capitals_cons, scanFrom, ← capitals_cons, find?_capitals (by decide), hn]
    rfl
  | case3 before c rest n hn ps last he ih =>
    rw [capitals_cons, scanFrom, ← capitals_cons, find?_capitals (by decide), hn]
    simp only [← capitals_drop, ← capitals_take]
    rw [ih (by simp), he]
    rfl
  | case4 before c rest l hn =>
    rw [capitals_cons, scanFrom, ← capitals_cons, Literal.close?_capitals ((hm l rfl).uncased hd), hn]
    rfl
  | case5 before c rest l n hn ps last he ih =>
    rw [capitals_cons, scanFrom, ← capitals_cons, Literal.close?_capitals ((hm l rfl).uncased hd), hn]
    simp only [← capitals_drop, ← capitals_take]
    rw [ih (by simp), he]
    simp only [List.map_cons, Piece.capitals, Mark.capitals_of_uncased ((hm l rfl).uncased hd)]
  | case6 before c rest hl =>
    rw [capitals_cons, scanFrom, ← capitals_cons, Dialect.startsLineComment_capitals, if_pos hl]
    rfl
  | case7 before c rest hl hb ps last he ih =>
    rw [capitals_cons, scanFrom, ← capitals_cons, Dialect.startsLineComment_capitals, if_neg hl,
      startsBlockComment_capitals, if_pos hb, ← capitals_drop, ih (by simp), he]
    rfl
  | case8 before c rest hl hb o ho ps last he ih =>
    have hmark := Mark.capitals_of_uncased ((Dialect.opens_of_opener? ho).uncased hd).1
    have hliteral : ∀ l, Mode.literal o.literal = .literal l → d.HasLiteral l := by
      intro l h
      exact ⟨o, Dialect.opens_of_opener? ho, Mode.literal.inj h⟩
    rw [Dialect.opener?_of_plainlyQuoted hd] at ho
    rw [capitals_cons, scanFrom, Dialect.opener?_of_plainlyQuoted hd, Dialect.quote?_toUpper, ho,
      ← capitals_cons, Dialect.startsLineComment_capitals, if_neg hl, startsBlockComment_capitals,
      if_neg hb]
    simp only [← capitals_drop]
    rw [ih hliteral, he]
    simp only [List.map_cons, Piece.capitals, hmark]
  | case9 before c rest hl hb ho ps last he ih =>
    rw [Dialect.opener?_of_plainlyQuoted hd] at ho
    rw [capitals_cons, scanFrom, Dialect.opener?_of_plainlyQuoted hd, Dialect.quote?_toUpper, ho,
      ← capitals_cons, Dialect.startsLineComment_capitals, if_neg hl, startsBlockComment_capitals,
      if_neg hb]
    simp only []
    rw [ih (by simp), he]
    rfl

end Scan

namespace Scan

variable {d : Dialect} {m : Mode}

theorem ofLine_capitals (hd : d ∈ Dialect.plainlyQuoted)
    (hm : ∀ l, m = .literal l → d.HasLiteral l) (line : Text) :
    ofLine d m (Text.capitals line) =
      { ofLine d m line with code := (ofLine d m line).code.capitals } := by
  simp only [ofLine, scanFrom_capitals hd hm none none line, Piece.codeOf_capitals,
    Piece.codeEnd_capitals]

/-- In the form in which it is compared, code has no case. -/
theorem plainCode_capitals (s : Scan) :
    plainCode { s with code := s.code.capitals } = s.plainCode := by
  have htab (c : Char) : (if c.toUpper = '\t' then ' ' else c.toUpper) =
      (if c = '\t' then ' ' else c).toUpper := by
    have hbeq := toUpper_beq (m := '\t') (by decide) c
    by_cases hc : c = '\t'
    · subst hc
      decide
    · rw [Bool.eq_iff_iff, beq_iff_eq, beq_iff_eq] at hbeq
      rw [if_neg hc, if_neg (mt hbeq.mp hc)]
  have hmap : s.code.capitals.map (fun c => if c = '\t' then ' ' else c) =
      Text.capitals (s.code.map fun c => if c = '\t' then ' ' else c) := by
    simp only [Text.capitals, List.map_map, Function.comp_def, htab]
  rw [plainCode, hmap, trim_capitals, upper_capitals, plainCode]

end Scan

namespace Delimiter

def capitals (x : Delimiter) : Delimiter :=
  { x with text := x.text.capitals }

theorem ends_capitals (x : Delimiter) (code : Text) : x.capitals.ends code = x.ends code := by
  simp [ends, capitals]

end Delimiter

namespace Draft

variable {d : Dialect} {s : Draft}

/-- The statement with its lines and its delimiter in capitals. -/
def capitals (s : Draft) : Draft :=
  { s with lines := s.lines.map Text.capitals, override := s.override.map Delimiter.capitals }

theorem delimiter_capitals (hd : d ∈ Dialect.plainlyQuoted) (s : Draft) :
    s.capitals.delimiter d = (s.delimiter d).capitals := by
  cases hx : s.override with
  | some x => simp [delimiter, capitals, hx]
  | none =>
    have hown : (if s.special then d.specialDelimiter else d.delimiter) =
        (if s.special then d.specialDelimiter else d.delimiter).capitals := by
      cases s.special <;> revert hd <;> cases d <;> decide
    simpa [delimiter, capitals, hx] using hown

theorem readsData_eq_false (hd : d ∈ Dialect.plainlyQuoted) (s : Draft) : s.readsData d = false := by
  have hp : d.carriesData = false := by revert hd; cases d <;> decide
  simp [readsData, hp]

theorem scan_capitals (hd : d ∈ Dialect.plainlyQuoted)
    (hs : ∀ l, s.mode = .literal l → d.HasLiteral l) (line : Text) :
    s.capitals.scan d line.capitals =
      { s.scan d line with code := (s.scan d line).code.capitals } := by
  rw [scan, scan, readsData_eq_false hd, readsData_eq_false hd]
  exact Scan.ofLine_capitals hd hs line

private theorem eq_of_fields {s t : Draft} (line : s.line = t.line) (lines : s.lines = t.lines)
    (override : s.override = t.override) (head : s.head = t.head) (special : s.special = t.special)
    (mode : s.mode = t.mode) (stop : s.stop = t.stop) (depth : s.depth = t.depth)
    (terminated : s.terminated = t.terminated) : s = t := by
  cases s
  cases t
  simp_all

theorem add_capitals (hd : d ∈ Dialect.plainlyQuoted)
    (hs : ∀ l, s.mode = .literal l → d.HasLiteral l) (line : Text) :
    s.capitals.add d line.capitals = (s.add d line).capitals := by
  have hscan := scan_capitals hd hs line
  have hplain : (s.capitals.scan d line.capitals).plainCode = (s.scan d line).plainCode := by
    rw [hscan, Scan.plainCode_capitals]
  have hsome : s.capitals.override.isSome = s.override.isSome := by simp [capitals]
  have hnone : s.capitals.override.isNone = s.override.isNone := by simp [capitals]
  have hmode : (s.capitals.add d line.capitals).mode = (s.add d line).mode := by
    rw [mode_add, hscan, mode_add]
  have hhead : (s.capitals.add d line.capitals).head = (s.add d line).head := by
    simp only [add, hplain, hsome]
    rfl
  have hspecial : (s.capitals.add d line.capitals).special = (s.add d line).special := by
    simp only [add, hplain, hsome, hnone]
    rfl
  have hdepth : (s.capitals.add d line.capitals).depth = (s.add d line).depth := by
    simp only [add, hplain, hsome, hnone]
    rfl
  have hdelimiter : (s.capitals.add d line.capitals).delimiter d =
      ((s.add d line).delimiter d).capitals := by
    rw [← delimiter_capitals hd, delimiter, delimiter, hspecial]
    rfl
  have hterminated : (s.capitals.add d line.capitals).terminated = (s.add d line).terminated := by
    rw [Bool.eq_iff_iff, terminated_add_iff, terminated_add_iff, hmode, hdepth, hdelimiter,
      Delimiter.ends_capitals, hplain]
    rfl
  apply eq_of_fields
  case lines => simp [capitals]
  case stop => rw [stop_add, hscan]; rfl
  case head => exact hhead
  case special => exact hspecial
  case mode => exact hmode
  case depth => exact hdepth
  case terminated => exact hterminated
  case line => rfl
  case override => rfl

end Draft

namespace Dialect

theorem isExecutableComment_capitals (d : Dialect) (t : Text) :
    d.isExecutableComment t.capitals = d.isExecutableComment t := by
  have hdigits (t : Text) : t.capitals.all isDecimalDigit = t.all isDecimalDigit := by
    simp only [Text.capitals, List.all_map, Function.comp_def, isDecimalDigit_toUpper]
  rw [isExecutableComment, isExecutableComment, after?_capitals (by decide)]
  cases after? ['/', '*', '!'] t with
  | none => rfl
  | some rest => simp only [Option.map_some, ← capitals_take, length_capitals, hdigits]

theorem isDirectiveWord_capitals (w : Text) : isDirectiveWord w.capitals = isDirectiveWord w := by
  have hform (c : Char) : (if c.toUpper = 'İ' || c.toUpper = 'ı' then 'I' else c.toUpper.toUpper) =
      if c = 'İ' || c = 'ı' then 'I' else c.toUpper :=
    apply_toUpper (fun c => if c = 'İ' || c = 'ı' then 'I' else c.toUpper) (by decide) c
  simp only [isDirectiveWord, Text.capitals, List.map_map, Function.comp_def, hform]

theorem directive?_capitals (d : Dialect) (line : Text) :
    d.directive? line.capitals = (d.directive? line).map Delimiter.capitals := by
  unfold directive?
  rw [words_capitals]
  split
  · match words line with
    | [] => rfl
    | [w] => rfl
    | [keyword, text] =>
      simp only [List.map_cons, List.map_nil, isDirectiveWord_capitals]
      split <;> rfl
    | w :: v :: u :: ws => rfl
  · rfl

end Dialect

def Role.capitals : Role → Role
  | .directive x => .directive x.capitals
  | r => r

namespace Gap

variable {d : Dialect}

/-- The gap with its delimiter in capitals. -/
def capitals (g : Gap) : Gap :=
  { g with delimiter := g.delimiter.map Delimiter.capitals }

theorem activeDelimiter_capitals (hd : d ∈ Dialect.plainlyQuoted) (g : Gap) :
    g.capitals.activeDelimiter d = (g.activeDelimiter d).capitals := by
  have hown : d.delimiter = d.delimiter.capitals := by revert hd; cases d <;> decide
  cases hx : g.delimiter with
  | some x => simp [activeDelimiter, capitals, hx]
  | none => simpa [activeDelimiter, capitals, hx] using hown

theorem commentRole?_capitals (d : Dialect) (g : Gap) (t : Text) :
    g.capitals.commentRole? d t.capitals = (g.commentRole? d t).map Role.capitals := by
  simp only [commentRole?, Dialect.isExecutableComment_capitals, startsBlockComment_capitals,
    endsBlockComment_capitals, Dialect.startsLineComment_capitals, capitals]
  split
  · rfl
  · split
    · rfl
    · split <;> rfl

theorem role_capitals (hd : d ∈ Dialect.plainlyQuoted) (g : Gap) (line : Text) :
    g.capitals.role d line.capitals = (g.role d line).capitals := by
  have hempty : (Text.capitals (trim line)).isEmpty = (trim line).isEmpty := by
    cases trim line <;> rfl
  have halone : (g.activeDelimiter d).capitals.alone = (g.activeDelimiter d).alone := rfl
  have htext : upper (g.activeDelimiter d).capitals.text = upper (g.activeDelimiter d).text :=
    upper_capitals _
  simp only [role, trim_capitals, hempty, commentRole?_capitals, Dialect.directive?_capitals,
    activeDelimiter_capitals hd, upper_capitals, halone, htext]
  split
  · rfl
  cases g.commentRole? d (trim line) with
  | some r => rfl
  | none =>
    cases d.directive? line with
    | some x => rfl
    | none =>
      simp only [Option.map_none]
      split <;> rfl

end Gap

/-- All lines are written in capitals. -/
def Change.inCapitals : Change :=
  { line := Text.capitals, draft := Draft.capitals, gap := Gap.capitals, role := Role.capitals }

theorem Change.inCapitals_fits {d : Dialect} (hd : d ∈ Dialect.plainlyQuoted) :
    inCapitals.Fits d fun s => ∀ l, s.mode = .literal l → d.HasLiteral l where
  good_fresh := by simp [Gap.fresh]
  good_add := by
    intro s t hs l hl
    rcases Draft.literal_add hl with h | h
    · exact hs l h
    · exact h
  terminated := fun _ => rfl
  add := fun s t hs => Draft.add_capitals hd hs t
  fresh := by
    intro g n
    simp [inCapitals, Gap.fresh, Gap.capitals, Draft.capitals]
  role := fun g t => g.role_capitals hd t
  start := by
    intro r
    cases r <;> simp [inCapitals, Role.capitals]
  after := by
    intro g r
    cases r <;> rfl

/-- The statement with its text in capitals. -/
def Statement.capitals (s : Statement) : Statement :=
  { s with sql := s.sql.capitals }

namespace Draft

variable {d : Dialect}

theorem text_capitals (s : Draft) : s.capitals.text = s.text.capitals :=
  joinLines_capitals s.lines

theorem lastLine_capitals (s : Draft) : s.capitals.lastLine = s.lastLine.capitals := by
  simp only [lastLine, capitals, List.getLast?_map]
  cases s.lines.getLast? <;> rfl

theorem dropLastLine_capitals (t : Text) : dropLastLine t.capitals = (dropLastLine t).capitals := by
  have hbreak (c : Char) : (c.toUpper == '\n') = (c == '\n') := toUpper_beq (by decide) c
  rw [dropLastLine, trimEnd_capitals, pieces_capitals hbreak, ← List.map_dropLast,
    joinLines_capitals, trimEnd_capitals, dropLastLine]

theorem holdsDelimiter_capitals (hd : d ∈ Dialect.plainlyQuoted) (s : Draft) :
    s.capitals.holdsDelimiter d = s.holdsDelimiter d := by
  have hstop : s.capitals.stop = s.stop := rfl
  simp only [holdsDelimiter, delimiter_capitals hd, lastLine_capitals, hstop, Delimiter.capitals,
    length_capitals, ← capitals_take, ← capitals_drop, upper_capitals]

theorem strippedText_capitals (hd : d ∈ Dialect.plainlyQuoted) (s : Draft) :
    s.capitals.strippedText d = (s.strippedText d).capitals := by
  have hstop : s.capitals.stop = s.stop := rfl
  have hlines : s.capitals.lines = s.lines.map Text.capitals := rfl
  simp only [strippedText, delimiter_capitals hd, holdsDelimiter_capitals hd, text_capitals,
    lastLine_capitals, dropLastLine_capitals, hstop, hlines, Delimiter.capitals, length_capitals]
  split
  · rfl
  · split
    · rw [← List.map_dropLast, ← capitals_take, ← capitals_drop, trimEnd_capitals,
        ← capitals_append, ← List.map_singleton, ← List.map_append, joinLines_capitals,
        trimEnd_capitals]
    · rfl

theorem finish_capitals (hd : d ∈ Dialect.plainlyQuoted) (strip : Bool) (s : Draft) :
    s.capitals.finish d strip = (s.finish d strip).capitals := by
  have hterminated : s.capitals.terminated = s.terminated := rfl
  simp only [finish, hterminated, strippedText_capitals hd, text_capitals, Statement.capitals]
  split <;> rfl

end Draft

/-- Lines in capitals are split into the same statements in capitals. -/
theorem split_capitals (d : Dialect) (hd : d ∈ Dialect.plainlyQuoted) (strip : Bool)
    (lines : List Text) : Cutting.split ⟨d, strip⟩ (lines.map Text.capitals) =
      (Cutting.split ⟨d, strip⟩ lines).map Statement.capitals := by
  have hdrafts : Progress.drafts d {} (lines.map Text.capitals) =
      (Progress.drafts d {} lines).map Draft.capitals :=
    (Change.inCapitals_fits hd).drafts (p := {}) (by simp) lines
  rw [Cutting.split_eq, Cutting.split_eq, hdrafts, List.map_map, List.map_map]
  exact List.map_congr_left fun s _ => Draft.finish_capitals hd strip s

/-- A delimiter that a directive sets in the other case. -/
theorem split_capitals_directive :
    Dialect.mysql ∈ Dialect.plainlyQuoted ∧
      Cutting.split ⟨.mysql, true⟩
          (["delimiter go".toList, "select 'a' Go".toList].map Text.capitals) =
        [⟨2, "SELECT 'A'".toList⟩] := by
  refine ⟨by decide, ?_⟩
  rw [split_capitals .mysql (by decide)]
  decide +kernel

end MigrationScript
