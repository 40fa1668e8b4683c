import MigrationScript.Proofs.Layout
import MigrationScript.Proofs.Lines
import MigrationScript.Proofs.Reading

/-!
A reading of a whole text at once, over its new lines. The scans of single lines, each of which
goes on where the one before it stopped, give the code and the mode of that reading.
-/
namespace MigrationScript

open Text

/-- The text that follows a line: nothing, or a new line. -/
def Text.IsBreak (rest : Text) : Prop :=
  rest = [] ∨ ∃ r, rest = '\n' :: r

theorem Text.IsBreak.startsBlank {rest : Text} (h : IsBreak rest) : StartsBlank rest := by
  rcases h with rfl | ⟨r, rfl⟩
  · exact .inl rfl
  · exact .inr ⟨'\n', r, by decide, rfl⟩

/-- A new line stays in the code wherever it stands, so that lines can be told apart. -/
def keepBreak (c : Char) : Text :=
  if c = '\n' then ['\n'] else []

/-- The code of a whole text and the mode at its end. A line comment ends before the new line;
block comments and literals go on behind it, also where it is hidden by a backslash. What is kept
next to the code are the marks of literals. -/
def Dialect.lex (d : Dialect) (m : Mode) (before : Option Char) (t : Text) : Text × Mode :=
  match t with
  | [] => ([], m)
  | c :: rest =>
    match m with
    | .comment =>
      if ['*', '/'].isPrefixOf (c :: rest) then lex d .code (some '/') (rest.drop 1)
      else prepend (keepBreak c) (lex d .comment (some c) rest)
    | .literal l =>
      if l.escapes && c == '\\' then
        match rest with
        | [] => ([], .literal l)
        | e :: rest => prepend (keepBreak e) (lex d (.literal l) (some e) rest)
      else if l.closer.text.isPrefixOf (c :: rest) then
        prepend l.closer.text
          (lex d .code l.closer.text.getLast? (rest.drop l.closer.more.length))
      else prepend (keepBreak c) (lex d (.literal l) (some c) rest)
    | .code =>
      if d.startsLineComment (c :: rest) then
        lex d .code (some c) (rest.dropWhile (· != '\n'))
      else if startsBlockComment (c :: rest) then lex d .comment (some '*') (rest.drop 1)
      else match d.opener? before (c :: rest) with
        | some o =>
          prepend o.mark.text
            (lex d (.literal o.literal) o.mark.text.getLast? (rest.drop o.mark.more.length))
        | none => prepend [c] (lex d .code (some c) rest)
termination_by t.length
decreasing_by
  all_goals simp only [List.length_drop, List.length_cons]
  all_goals try omega
  exact Nat.lt_succ_of_le (List.dropWhile_sublist _).length_le

namespace Dialect

variable {d : Dialect} {m : Mode} {before : Option Char} {t rest : Text}

/-- Of the character before a text it only matters whether a word is running there. -/
theorem lex_before {b : Option Char} (h : before.any isWordChar = b.any isWordChar) :
    d.lex m before t = d.lex m b t := by
  cases t with
  | nil => rw [lex, lex]
  | cons c t =>
    cases m with
    | comment => rw [lex, lex]
    | literal l => rw [lex.eq_def, lex.eq_def d (.literal l) b]
    | code =>
      have ho : d.opener? before (c :: t) = d.opener? b (c :: t) := by
        simp only [opener?, h]
      rw [lex, lex, ho]

/-- At a new line the reading goes on as at the start of a line. -/
theorem lex_newline (hm : m.Proper) (r : Text) :
    d.lex m before ('\n' :: r) = prepend ['\n'] (d.lex m none r) := by
  have hb : StartsBlank ('\n' :: r) := IsBreak.startsBlank (.inr ⟨r, rfl⟩)
  have hw : (some '\n').any isWordChar = (none : Option Char).any isWordChar := by decide
  rw [lex.eq_def]
  cases m with
  | comment =>
    have hc : ['*', '/'].isPrefixOf ('\n' :: r) = false := by simp [List.isPrefixOf]
    simp only [hc]
    rw [← lex_before hw]
    rfl
  | literal l =>
    have hc : l.closer.text.isPrefixOf ('\n' :: r) = false := by
      have := isPrefixOf_append_blank (t := []) hm.solid hb
      simpa [Mark.text, List.isPrefixOf] using this
    have he : (l.escapes && '\n' == '\\') = false := by simp
    simp only [he, hc]
    rw [← lex_before hw]
    rfl
  | code =>
    obtain ⟨hline, hblock, hopen⟩ := starts_blank d before hb
    simp only [hline, hblock, hopen]
    rw [← lex_before hw]
    rfl

/-- Where a line ends it does not matter which character was the last. -/
theorem lex_break (hm : m.Proper) (h : IsBreak rest) : d.lex m before rest = d.lex m none rest := by
  rcases h with rfl | ⟨r, rfl⟩
  · rw [lex, lex]
  · rw [lex_newline hm, lex_newline hm]

private theorem keepBreak_of_ne {c : Char} (h : '\n' ≠ c) : keepBreak c = [] :=
  if_neg (Ne.symm h)

private theorem dropWhile_line (ht : '\n' ∉ t) (h : IsBreak rest) :
    (t ++ rest).dropWhile (· != '\n') = rest := by
  induction t with
  | nil => rcases h with rfl | ⟨r, rfl⟩ <;> simp
  | cons c t ih =>
    obtain ⟨hc, ht⟩ := List.ne_and_not_mem_of_not_mem_cons ht
    simpa [Ne.symm hc] using ih ht

/-- A token of a line is read in a whole text as on its line. -/
theorem lex_token {k : Text} {m' : Mode} {b' : Option Char} {r : Text}
    (h : d.Token m before t k m' b' r) (hm : m.Proper) (ht : '\n' ∉ t) (hr : IsBreak rest) :
    d.lex m before (t ++ rest) = prepend k (d.lex m' b' (r ++ rest)) := by
  have hb := hr.startsBlank
  have hprefix {p : Text} (hp : ∀ c ∈ p, isBlank c = false) :
      p.isPrefixOf (t ++ rest) = p.isPrefixOf t :=
    isPrefixOf_append_blank hp hb
  have hline : d.startsLineComment (t ++ rest) = d.startsLineComment t :=
    startsLineComment_append_blank hb
  have hblock : startsBlockComment (t ++ rest) = startsBlockComment t :=
    startsBlockComment_append_blank hb
  have hopen := opener?_append_blank d before t hb
  rw [lex.eq_def]
  cases h with
  | commentEnd r => simp
  | inComment no =>
    have hk := keepBreak_of_ne (List.ne_of_not_mem_cons ht)
    rw [← hprefix (by decide)] at no
    simp only [List.cons_append] at no ⊢
    simp only [no, hk]
    rfl
  | @hiddenChar _ _ c e r he =>
    have hk := keepBreak_of_ne (List.ne_of_not_mem_cons (List.not_mem_of_not_mem_cons ht))
    simp only [List.cons_append, he, hk]
    rfl
  | lastBackslash he =>
    simp only [List.cons_append, List.nil_append, he, if_true, prepend_nil]
    rcases hr with rfl | ⟨r, rfl⟩
    · rw [lex]
    · rw [lex_newline hm]
      exact congrArg (prepend ['\n']) (lex_before (by decide))
  | @literalEnd l _ r he =>
    have hp := hprefix hm.solid
    rw [List.isPrefixOf_iff_prefix.mpr (List.prefix_append _ r)] at hp
    simp only [Mark.text, List.cons_append, List.append_assoc] at hp ⊢
    simp only [he, hp, if_true, List.drop_left]
    rfl
  | @inLiteral l _ c t he no =>
    have hk := keepBreak_of_ne (List.ne_of_not_mem_cons ht)
    rw [← hprefix hm.solid] at no
    simp only [List.cons_append] at no ⊢
    simp only [he, no, hk]
    rfl
  | @lineComment _ c t hl =>
    rw [← hline] at hl
    simp only [List.cons_append] at hl ⊢
    simp only [hl, if_true, dropWhile_line (List.not_mem_of_not_mem_cons ht) hr]
    rfl
  | commentStart r =>
    have hb : startsBlockComment ('/' :: '*' :: (r ++ rest)) = true := by
      simp [startsBlockComment]
    simp only [List.cons_append, startsLineComment_slash, hb]
    rfl
  | literalStart r hl hb ho =>
    rw [← hline] at hl
    rw [← hblock] at hb
    rw [← hopen] at ho
    simp only [Mark.text, List.cons_append, List.append_assoc] at hl hb ho ⊢
    simp only [hl, hb, ho, List.drop_left]
    rfl
  | inCode hl hb ho =>
    rw [← hline] at hl
    rw [← hblock] at hb
    rw [← hopen] at ho
    simp only [List.cons_append] at hl hb ho ⊢
    simp only [hl, hb, ho]
    rfl

/-- A line is read in a whole text as it is scanned by itself; what follows is read in the mode
that the scan leaves. -/
theorem lex_append (d : Dialect) (m : Mode) (b : Option Char) {t rest : Text} (hm : m.Proper)
    (ht : '\n' ∉ t) (hr : IsBreak rest) :
    d.lex m b (t ++ rest) = prepend (d.read m b t).1 (d.lex (d.read m b t).2 none rest) := by
  induction m, b, t using token_induction d with
  | nil m b => rw [List.nil_append, read_nil, prepend_nil, lex_break hm hr]
  | token h ih =>
    have hn := fun hn => ht (h.suffix.1.subset hn)
    rw [lex_token h hm ht hr, read_token h, ih (h.proper hm) hn, prepend_prepend]
    rfl

end Dialect

namespace Draft

/-- What each of some lines gives to a draft that takes in one after the other. -/
def scans (d : Dialect) (s : Draft) : List Text → List Scan
  | [] => []
  | line :: lines => s.scan d line :: scans d (s.add d line) lines

/-- The lines that are read as code: all of them, or those up to the one after which data come. -/
def codeLines (d : Dialect) (s : Draft) : List Text → List Text
  | [] => []
  | line :: lines => if s.readsData d then [] else line :: codeLines d (s.add d line) lines

variable {d : Dialect} {s : Draft}

/-- Only one dialect has data among its lines. -/
theorem codeLines_eq (hd : d.carriesData = false) (lines : List Text) :
    s.codeLines d lines = lines := by
  induction lines generalizing s with
  | nil => rfl
  | cons line lines ih => simp [codeLines, readsData, hd, ih]

/-- The scans of lines of code are a reading of the lines as one text. -/
theorem lex_codeLines {lines : List Text} (hs : s.mode.Proper) (hl : ∀ line ∈ lines, '\n' ∉ line) :
    d.lex s.mode none (joinLines (s.codeLines d lines)) =
      (joinLines ((s.scans d (s.codeLines d lines)).map Scan.code),
        (s.addAll d (s.codeLines d lines)).mode) := by
  induction lines generalizing s with
  | nil => simp [codeLines, scans, Dialect.lex]
  | cons line lines ih =>
    obtain ⟨hline, hlines⟩ := List.forall_mem_cons.mp hl
    rw [codeLines]
    split
    · simp [scans, Dialect.lex]
    next hd =>
      obtain ⟨hcode, hmode⟩ := scan_of_code (eq_false_of_ne_true hd) line
      have hproper : (s.add d line).mode.Proper := proper_add hs
      have ih := ih hproper hlines
      rw [scans, List.map_cons, addAll_cons]
      by_cases hn : (s.add d line).codeLines d lines = []
      · have happ := d.lex_append s.mode none hs hline (.inl rfl)
        rw [hn] at ih ⊢
        rw [List.append_nil, Dialect.lex, ← hmode, ← hcode] at happ
        simpa [scans, prepend] using happ
      · have happ := d.lex_append s.mode none hs hline
          (.inr ⟨joinLines ((s.add d line).codeLines d lines), rfl⟩)
        have hc : ((s.add d line).scans d ((s.add d line).codeLines d lines)).map Scan.code ≠ [] := by
          cases hcl : (s.add d line).codeLines d lines with
          | nil => contradiction
          | cons next more => simp [scans]
        rw [← hmode, Dialect.lex_newline hproper, ih, ← hcode] at happ
        rw [joinLines_cons hn, joinLines_cons hc, happ]
        rfl

theorem mem_scans_code {lines : List Text} (hl : ∀ line ∈ lines, '\n' ∉ line) :
    ∀ scan ∈ s.scans d (s.codeLines d lines), '\n' ∉ scan.code := by
  induction lines generalizing s with
  | nil => simp [codeLines, scans]
  | cons line lines ih =>
    obtain ⟨hline, hlines⟩ := List.forall_mem_cons.mp hl
    rw [codeLines]
    split
    · simp [scans]
    next hd =>
      intro scan hmem
      rcases List.mem_cons.mp hmem with rfl | hmem
      · exact fun hn => hline (code_scan_subset d s line hn)
      · exact ih hlines scan hmem

/-- Data open and close nothing. -/
theorem mode_addAll_data (h : s.readsData d = true) (lines : List Text) :
    (s.addAll d lines).mode = s.mode := by
  induction lines generalizing s with
  | nil => rfl
  | cons line lines ih =>
    rw [addAll_cons, ih (readsData_add h), mode_add_of_data h]

theorem mode_addAll_codeLines (lines : List Text) :
    (s.addAll d (s.codeLines d lines)).mode = (s.addAll d lines).mode := by
  induction lines generalizing s with
  | nil => rfl
  | cons line lines ih =>
    rw [codeLines]
    split
    next hd => exact (mode_addAll_data hd _).symm
    next hd => exact ih

end Draft

/-- The scans of lines against a reading of whole texts. An empty draft that takes in the lines one
by one gives the code of that reading line by line and the mode at its end, and no statement of the
script ends inside a literal or a comment of its own text. -/
structure ReadsWhole (d : Dialect) (lines : List Text) : Prop where
  lexed : ∀ (g : Gap) (n : Int), let own := (g.fresh n).codeLines d lines
    d.lex .code none (joinLines own) =
      (joinLines (((g.fresh n).scans d own).map Scan.code), ((g.fresh n).addAll d own).mode)
  breaks : ∀ (g : Gap) (n : Int), ∀ scan ∈ (g.fresh n).scans d ((g.fresh n).codeLines d lines),
    '\n' ∉ scan.code
  all : d ≠ .postgres → ∀ (g : Gap) (n : Int), (g.fresh n).codeLines d lines = lines
  found : ∀ strip, Cutting.find ⟨d, strip⟩ lines =
    (Progress.drafts d {} lines).map (Cutting.finish ⟨d, strip⟩)
  ended : ∀ s ∈ Progress.drafts d {} lines, s.terminated = true →
    (d.lex .code none (joinLines (s.origin.codeLines d s.lines))).2 = .code

theorem readsWhole (d : Dialect) (lines : List Text) (hl : ∀ line ∈ lines, '\n' ∉ line) :
    ReadsWhole d lines where
  lexed := by
    intro g n own
    exact Draft.lex_codeLines (s := g.fresh n) trivial hl
  breaks := by
    intro g n
    exact Draft.mem_scans_code hl
  all := by
    intro hd g n
    apply Draft.codeLines_eq
    cases d <;> first | rfl | contradiction
  found := by
    intro strip
    exact Cutting.findFrom_eq _ _ _
  ended := by
    intro s hs ht
    obtain ⟨ha, hsub⟩ := Progress.assembled_drafts d lines s hs
    have h : d.lex .code none _ = _ := Draft.lex_codeLines (d := d) (s := s.origin) trivial
      fun line hmem => hl line (hsub hmem)
    obtain ⟨-, -, -, hm, -⟩ := (ha.ends ht).exists_last
    rw [h, Draft.mode_addAll_codeLines]
    exact hm

/-- A backslash hides the end of a line, and a comment runs over the next one. -/
theorem readsWhole_hidden_break :
    (∀ line ∈ ["SELECT 'a\\".toList, "b' /* c".toList, "*/ ;".toList], '\n' ∉ line) ∧
      ReadsWhole .mysql ["SELECT 'a\\".toList, "b' /* c".toList, "*/ ;".toList] :=
  ⟨by decide, readsWhole .mysql _ (by decide)⟩

end MigrationScript
