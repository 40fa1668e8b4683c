import MigrationScript.Proofs.Continuation
import MigrationScript.Proofs.OpenComments
import MigrationScript.Proofs.Parallel
import MigrationScript.Proofs.Placement
import MigrationScript.Proofs.Words

/-!
Delimiter directives. A statement ends at the delimiter of the last directive that was met before
it, between statements and outside of comments; the semicolon, set by a directive, is the same as no
directive at all. Main statement: all this holds of every script.
-/
namespace MigrationScript

namespace Text

variable {c : Char} {t : Text}

theorem words_trimStart (t : Text) : words (trimStart t) = words t := by
  have hfront : ∀ c ∈ t.takeWhile isBlank, isBlank c = true :=
    List.all_eq_true.mp List.all_takeWhile
  calc words (trimStart t)
    _ = words (t.takeWhile isBlank ++ trimStart t) := (runs_cuts_append hfront _).symm
    _ = words t := congrArg words List.takeWhile_append_dropWhile

/-- The first word of a text that is not blank at its start. -/
theorem exists_words_cons (hc : isBlank c = false) (t : Text) :
    ∃ w ws, words (c :: t) = (c :: w) :: ws := by
  obtain ⟨w, ws, hp⟩ := List.exists_cons_of_ne_nil (pieces_ne_nil isBlank t)
  exact ⟨w, ws.filter fun r => !r.isEmpty, by simp [words, runs, pieces, hc, hp]⟩

/-- The first word of a line starts with the first character of the trimmed line. -/
theorem exists_words_of_trim {r : Text} (h : trim t = c :: r) :
    ∃ w ws, words t = (c :: w) :: ws := by
  obtain ⟨hc, w, hstart⟩ := trimStart_of_trim h
  rw [← words_trimStart, hstart]
  exact exists_words_cons hc _

end Text

namespace Dialect

variable {line : Text} {x : Delimiter}

/-- A directive is no executable comment. -/
theorem isExecutableComment_of_directive? (h : mysql.directive? line = some x) :
    mysql.isExecutableComment (Text.trim line) = false := by
  obtain ⟨-, -, keyword, hwords, hk⟩ := words_of_directive? h
  rw [← Bool.not_eq_true]
  intro hx
  obtain ⟨r, hr⟩ : ∃ r, Text.trim line = '/' :: r := by
    cases ha : Text.after? ['/', '*', '!'] (Text.trim line) with
    | none => simp [isExecutableComment, ha] at hx
    | some rest => exact ⟨_, Text.eq_append_of_after? ha⟩
  obtain ⟨w, ws, hslash⟩ := Text.exists_words_of_trim hr
  rw [hwords] at hslash
  obtain ⟨rfl, -⟩ := List.cons.inj hslash
  have hfirst := congrArg List.head? (beq_iff_eq.mp hk)
  simp at hfirst

end Dialect

/-- The delimiter that a line sets between statements. -/
def Turn.directive? (t : Turn) : Option Delimiter :=
  match t.role with
  | some (.directive x) => some x
  | _ => none

/-- The delimiter of the last line that sets one. -/
def lastDirective? (ts : List Turn) : Option Delimiter :=
  (ts.filterMap Turn.directive?).getLast?

theorem lastDirective?_cons (t : Turn) (ts : List Turn) :
    lastDirective? (t :: ts) = (lastDirective? ts).or t.directive? := by
  unfold lastDirective?
  cases ht : t.directive? with
  | none => rw [List.filterMap_cons_none ht, Option.or_none]
  | some x =>
    rw [List.filterMap_cons_some ht, List.getLast?_cons]
    cases (ts.filterMap Turn.directive?).getLast? <;> rfl

theorem Turn.directive?_eq_some {t : Turn} {x : Delimiter} :
    t.directive? = some x ↔ t.role = some (.directive x) := by
  unfold Turn.directive?
  split
  next y hy => simp [hy]
  next hn =>
    constructor
    · intro h
      contradiction
    · intro h
      exact absurd h (hn x)

namespace Progress

variable {p : Progress} {line : Text}

theorem delimiter_step (d : Dialect) (p : Progress) (line : Text) :
    (p.step d line).after.gap.delimiter = (p.step d line).directive?.or p.gap.delimiter := by
  rw [gap_step]
  unfold Turn.directive?
  cases (p.step d line).role with
  | none => rfl
  | some r => cases r <;> rfl

/-- The delimiter in force is that of the last directive. -/
theorem delimiter_run (d : Dialect) (p : Progress) (lines : List Text) :
    (p.run d lines).gap.delimiter = (lastDirective? (p.turns d lines)).or p.gap.delimiter := by
  induction lines generalizing p with
  | nil => rfl
  | cons line lines ih =>
    rw [run_cons, ih, delimiter_step, turns, lastDirective?_cons, Option.or_assoc]

theorem directive_of_role {x : Delimiter}
    (h : (p.step .mysql line).role = some (.directive x)) :
    Dialect.mysql.directive? line = some x := by
  have hrole := Gap.decides .mysql p.gap line
  rw [role_step (draft_of_role h), Option.some.injEq] at h
  rw [h] at hrole
  cases hrole with
  | directive solid code sets => exact sets

/-- A line in the form of a directive is none inside a statement or a comment. -/
theorem directive?_of_inside {x : Delimiter} (hx : Dialect.mysql.directive? line = some x)
    (h : p.draft ≠ none ∨ p.gap.inComment = true) : (p.step .mysql line).directive? = none := by
  rw [Option.eq_none_iff_forall_ne_some]
  intro y hy
  have hrole := Turn.directive?_eq_some.mp hy
  have hidle := draft_of_role hrole
  have hopen : p.gap.inComment = true := h.resolve_left fun hn => hn hidle
  rw [role_step hidle, Option.some.injEq] at hrole
  rcases Gap.role_of_inComment hopen (Dialect.isExecutableComment_of_directive? hx) with hb | hc
  · rw [hrole] at hb
    contradiction
  · rw [hrole] at hc
    contradiction

end Progress

namespace Draft

variable {d : Dialect} {s : Draft}

/-- A draft of a dialect in which only a directive changes the delimiter. -/
theorem delimiter_eq (s : Draft) : s.delimiter .mysql = s.override.getD .semicolon := by
  simp [delimiter, Dialect.specialDelimiter, Dialect.delimiter]

/-- The draft with its delimiter set from outside, whether it was or not. -/
def settle (s : Draft) : Draft :=
  { s with override := some (s.override.getD .semicolon), head := [] }

theorem delimiter_settle (s : Draft) : s.settle.delimiter .mysql = s.delimiter .mysql := by
  rw [delimiter_eq, delimiter_eq]
  rfl

theorem add_settle (s : Draft) (line : Text) :
    s.settle.add .mysql line = (s.add .mysql line).settle := by
  have hspecial : ∀ head, Dialect.mysql.isSpecial head = false := fun _ => rfl
  have hnest : Dialect.mysql.nestsBlocks = false := rfl
  simp only [add, hspecial, hnest, Bool.and_false, Bool.or_false, Bool.false_and,
    Bool.false_eq_true, if_false, delimiter_eq, settle, Option.isSome_some, if_true,
    Option.getD_some]
  rfl

theorem finish_settle (s : Draft) (strip : Bool) :
    s.settle.finish .mysql strip = s.finish .mysql strip := by
  have hholds : s.settle.holdsDelimiter .mysql = s.holdsDelimiter .mysql := by
    rw [holdsDelimiter, holdsDelimiter, delimiter_settle]
    rfl
  have hcut : s.settle.strippedText .mysql = s.strippedText .mysql := by
    rw [strippedText, strippedText, hholds, delimiter_settle]
    rfl
  rw [finish, finish, hcut]
  rfl

end Draft

/-- The gap with a delimiter in force, whether a directive has set it or not. -/
def Gap.settle (g : Gap) : Gap :=
  { g with delimiter := some (g.delimiter.getD .semicolon) }

namespace Change

/-- A directive that sets the semicolon stands in front. -/
def settle : Change :=
  { draft := Draft.settle, gap := Gap.settle }

theorem settle_fits : settle.Fits .mysql fun _ => True where
  good_fresh := by simp
  good_add := by simp
  terminated := fun _ => rfl
  add := fun s t _ => s.add_settle t
  fresh := by
    intro g n
    simp [settle, Gap.fresh, Gap.settle, Draft.settle]
  role := by
    intro g t
    have hactive : g.settle.activeDelimiter .mysql = g.activeDelimiter .mysql := rfl
    have hcomment : ∀ t, g.settle.commentRole? .mysql t = g.commentRole? .mysql t := fun _ => rfl
    simp only [settle, Gap.role, hactive, hcomment, id]
  start := fun _ => Iff.rfl
  after := by
    intro g r
    cases r <;> rfl

end Change

/-- The line that sets the semicolon. -/
def semicolonDirective : Text :=
  "DELIMITER ;".toList

theorem Gap.role_semicolonDirective {g : Gap} (hg : g.inComment = false) :
    g.role .mysql semicolonDirective = .directive .semicolon := by
  obtain ⟨o, x⟩ := g
  obtain rfl : o = false := hg
  rfl

theorem Progress.step_semicolonDirective {p : Progress} (hdraft : p.draft = none)
    (hcomment : p.gap.inComment = false) : p.step .mysql semicolonDirective =
      ⟨some (.directive .semicolon), none, ⟨p.number + 1, ⟨false, some .semicolon⟩, none⟩⟩ := by
  obtain ⟨n, g, s⟩ := p
  obtain rfl : s = none := hdraft
  have hrole := Gap.role_semicolonDirective hcomment
  rw [step_between (by rw [hrole]; simp), hrole, Gap.after]
  have hg : g.inComment = false := hcomment
  rw [hg]

/-- All the while that its lines come in, the statement has the delimiter `x`, and a line ends it
that leaves no literal and no comment open and whose code ends with `x`. -/
def Draft.EndsBy (s : Draft) (x : Delimiter) : Prop :=
  ∀ body line, body ++ [line] <+: s.lines →
    (s.origin.addAll .mysql (body ++ [line])).delimiter .mysql = x ∧
      ((s.origin.addAll .mysql (body ++ [line])).terminated = true ↔
        (s.origin.addAll .mysql body).terminated = true ∨
          ((s.origin.addAll .mysql (body ++ [line])).mode = .code ∧
            x.ends ((s.origin.addAll .mysql body).scan .mysql line).plainCode = true))

open Progress

/-- What directives do in the scripts of the one dialect that has them. -/
structure ObeysDirectives (lines : List Text) : Prop where
  statements : ∀ strip, Cutting.split ⟨.mysql, strip⟩ lines =
    (drafts .mysql {} lines).map (Draft.finish .mysql strip)
  /-- The delimiter is the second of a directive's two words. -/
  token : ∀ a line b x, lines = a ++ line :: b →
    ((run .mysql {} a).step .mysql line).directive? = some x →
    ∃ keyword, Text.words line = [keyword, x.text] ∧ Dialect.isDirectiveWord keyword = true ∧
      x.alone = false
  /-- A statement is made of the lines behind some lines `a`, and ends by the delimiter of the last
  directive among these. -/
  ends : ∀ s ∈ drafts .mysql {} lines, ∃ a b, lines = a ++ (s.lines ++ b) ∧
    s.line = 1 + a.length ∧ s.origin.addAll .mysql s.lines = s ∧
    s.EndsBy ((lastDirective? (turns .mysql {} a)).getD .semicolon)
  /-- Inside a statement or a comment a line in the form of a directive changes no delimiter. -/
  inside : ∀ a line b x, lines = a ++ line :: b → Dialect.mysql.directive? line = some x →
    (run .mysql {} a).draft ≠ none ∨ (run .mysql {} a).gap.inComment = true →
    ((run .mysql {} a).step .mysql line).directive? = none ∧
      ((run .mysql {} a).step .mysql line).after.gap.delimiter = (run .mysql {} a).gap.delimiter ∧
      ∀ s, (run .mysql {} a).draft = some s →
        (s.add .mysql line).delimiter .mysql = s.delimiter .mysql
  /-- A directive is no line of any statement. -/
  apart : ∀ a line b x, lines = a ++ line :: b →
    ((run .mysql {} a).step .mysql line).directive? = some x →
    ∀ s ∈ drafts .mysql {} lines,
      1 + (a.length : Int) < s.line ∨ s.line + s.lines.length ≤ 1 + a.length
  /-- Behind a directive that sets the semicolon, the lines are split as a script of its own. -/
  semicolon : ∀ strip a b, lines = a ++ semicolonDirective :: b →
    (run .mysql {} a).draft = none → (run .mysql {} a).gap.inComment = false →
    Cutting.split ⟨.mysql, strip⟩ lines = Cutting.split ⟨.mysql, strip⟩ a ++
      (Cutting.split ⟨.mysql, strip⟩ b).map (Statement.shift (a.length + 1))

private theorem endsBy_of_standsBehind {a : List Text} {s : Draft}
    (h : StandsBehind .mysql {} a s) :
    s.EndsBy ((lastDirective? (turns .mysql {} a)).getD .semicolon) := by
  have horigin : s.origin = (run .mysql {} a).gap.fresh s.line := by
    rw [← h.own, Gap.origin_fresh, Draft.line_addAll]
    rfl
  have hover : s.origin.override = lastDirective? (turns .mysql {} a) := by
    have hrun := delimiter_run .mysql {} a
    rw [horigin]
    rwa [Option.or_none] at hrun
  intro body line _
  have hdelimiter : (s.origin.addAll .mysql (body ++ [line])).delimiter .mysql =
      (lastDirective? (turns .mysql {} a)).getD .semicolon := by
    rw [Draft.delimiter_eq, Draft.override_addAll, hover]
  have hdepth : (s.origin.addAll .mysql (body ++ [line])).depth = 0 :=
    Draft.depth_addAll rfl (body ++ [line])
  refine ⟨hdelimiter, ?_⟩
  rw [Draft.addAll_concat] at hdelimiter hdepth ⊢
  rw [Draft.terminated_add_iff, hdelimiter, hdepth]
  simp only [true_and]

private theorem split_semicolonDirective (strip : Bool) {a : List Text} (b : List Text)
    (hdraft : (run .mysql {} a).draft = none)
    (hcomment : (run .mysql {} a).gap.inComment = false) :
    Cutting.split ⟨.mysql, strip⟩ (a ++ semicolonDirective :: b) =
      Cutting.split ⟨.mysql, strip⟩ a ++
        (Cutting.split ⟨.mysql, strip⟩ b).map (Statement.shift (a.length + 1)) := by
  -- The state behind the directive is the first one, further on and with the semicolon set.
  have hstate : ((run .mysql {} a).step .mysql semicolonDirective).after =
      Change.settle.progress (shift (a.length + 1) {}) := by
    rw [step_semicolonDirective hdraft hcomment, number_run]
    simp [Change.progress, Change.settle, shift, Gap.settle]
    omega
  have hdrafts := Change.settle_fits.drafts (p := shift (a.length + 1) {}) (by simp) b
  rw [show Change.settle.line = id from rfl, List.map_id, drafts_shift, List.map_map] at hdrafts
  rw [Cutting.split_append_of_idle ⟨.mysql, strip⟩ a _ hdraft, Cutting.split_eq _ b, drafts_cons,
    hstate, hdrafts, step_semicolonDirective hdraft hcomment, List.map_map]
  refine congrArg (_ ++ ·) ?_
  rw [show Turn.ended? _ = none from rfl, Option.toList_none, List.nil_append, List.map_map]
  refine List.map_congr_left fun s _ => ?_
  exact (Draft.finish_settle _ strip).trans (Draft.finish_shift strip)

theorem obeysDirectives (lines : List Text) : ObeysDirectives lines where
  statements := fun _ => Cutting.split_eq _ lines
  token := by
    intro a line b x heq hx
    obtain ⟨-, halone, keyword, hwords, hk⟩ :=
      Dialect.words_of_directive? (directive_of_role (Turn.directive?_eq_some.mp hx))
    exact ⟨keyword, hwords, hk, halone⟩
  ends := by
    intro s hs
    obtain ⟨a, b, heq, hstands⟩ := exists_standsBehind hs
    exact ⟨a, b, heq, hstands.number, (assembled_drafts .mysql lines s hs).1.eq,
      endsBy_of_standsBehind hstands⟩
  inside := by
    intro a line b x heq hx hin
    have hnone := directive?_of_inside hx hin
    refine ⟨hnone, ?_, ?_⟩
    · rw [delimiter_step, hnone, Option.none_or]
    · intro s hs
      rw [Draft.delimiter_eq, Draft.delimiter_eq, Draft.override_add]
  apart := by
    intro a line b x heq hx s hs
    obtain ⟨c, e, hplace, hstands⟩ := exists_standsBehind hs
    have hout := hstands.outside (hplace.symm.trans heq) (Turn.directive?_eq_some.mp hx) (by simp)
    have hnumber : s.line = 1 + c.length := hstands.number
    omega
  semicolon := by
    rintro strip a b rfl hdraft hcomment
    exact split_semicolonDirective strip b hdraft hcomment

end MigrationScript
