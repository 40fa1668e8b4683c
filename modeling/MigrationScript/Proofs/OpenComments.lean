import Mathlib.Data.List.Induction
import MigrationScript.Proofs.Layout
import MigrationScript.Proofs.Roles

/-!
Open comments between statements. An open comment should take in every line up to the one that
closes it, so that no statement starts or ends while it is open. An executable comment is looked for
before all other comments, also inside of them. Main statement: comments and statements keep apart
in exactly those scripts in which no executable comment is met inside an open comment.
-/
namespace MigrationScript

namespace Gap

variable {d : Dialect} {g : Gap} {line : Text}

/-- Inside a comment a line is blank or belongs to the comment, unless it is an executable one. -/
theorem role_of_inComment (hg : g.inComment = true)
    (hx : d.isExecutableComment (Text.trim line) = false) :
    g.role d line = .blank ∨ g.role d line = .comment !endsBlockComment (Text.trim line) := by
  have hcode : g.commentRole? d (Text.trim line) =
      some (.comment !endsBlockComment (Text.trim line)) := by
    simp [commentRole?, hx, hg]
  by_cases hempty : (Text.trim line).isEmpty = true
  · left
    simp only [role, hempty, if_true]
  · right
    simp only [role, hempty, hcode, Bool.false_eq_true, if_false]

/-- An executable comment is neither blank nor part of a comment. -/
theorem role_of_executable (hx : d.isExecutableComment (Text.trim line) = true) :
    g.role d line ≠ .blank ∧ ∀ o, g.role d line ≠ .comment o := by
  have hd := g.decides d line
  constructor
  · intro hr
    rw [hr] at hd
    cases hd with
    | blank empty =>
      rw [empty] at hx
      cases d <;> contradiction
  · intro o hr
    rw [hr] at hd
    cases hd with
    | blockComment solid plain inside => simp [plain] at hx
    | lineComment solid plain outside marked => simp [plain] at hx

/-- A comment that is open behind a line but not before it begins on that line. -/
theorem startsBlockComment_of_role (hg : g.inComment = false)
    (hr : g.role d line = .comment true) : startsBlockComment (Text.trim line) = true := by
  have hd := g.decides d line
  generalize hc : Role.comment true = r at hr
  rw [hr] at hd
  cases hd with
  | blockComment solid plain inside => simpa [hg] using inside
  | _ => contradiction

theorem comment_of_after {r : Role} (hg : g.inComment = false) (h : (g.after r).inComment = true) :
    r = .comment true := by
  cases r with
  | comment o => exact congrArg Role.comment h
  | _ => simp [after, hg] at h

end Gap

namespace Progress

variable {d : Dialect} {p : Progress} {lines : List Text} {line : Text}

/-- If the line is met between statements and inside a comment, it is no executable comment. -/
def Admits (d : Dialect) (p : Progress) (line : Text) : Prop :=
  p.draft = none → p.gap.inComment = true → d.isExecutableComment (Text.trim line) = false

/-- No comment is open before a statement in progress. -/
def Apart (p : Progress) : Prop :=
  p.draft ≠ none → p.gap.inComment = false

namespace Admits

theorem held (h : p.Admits d line) (hp : p.draft = none) (hg : p.gap.inComment = true) :
    (p.step d line).role = some .blank ∨
      (p.step d line).role = some (.comment !endsBlockComment (Text.trim line)) := by
  rw [role_step hp, Option.some.injEq, Option.some.injEq]
  exact Gap.role_of_inComment hg (h hp hg)

theorem starts (h : p.Admits d line) (hr : (p.step d line).role = some .start) :
    p.gap.inComment = false := by
  rw [← Bool.not_eq_true]
  intro hg
  rcases h.held (draft_of_role hr) hg with hb | hc
  · simp [hr] at hb
  · simp [hr] at hc

/-- No comment is open behind a line of a statement. -/
theorem closed (h : p.Admits d line) (hp : p.Apart) (hs : (p.step d line).draft ≠ none) :
    (p.step d line).after.gap.inComment = false := by
  have hstart := h.starts
  have ht := p.takesTurn d line
  generalize p.step d line = t at ht hs hstart ⊢
  cases ht with
  | added => exact hp (by simp)
  | started role => exact hstart rfl
  | dropped role => simp at hs

theorem apart (h : p.Admits d line) (hp : p.Apart) : (p.step d line).after.Apart := by
  intro hd
  have hclosed := h.closed hp
  have ht := p.takesTurn d line
  generalize p.step d line = t at ht hd hclosed ⊢
  cases ht with
  | added => exact hclosed (by simp)
  | started role => exact hclosed (by simp)
  | dropped role => simp at hd

end Admits

/-- No executable comment is met inside a comment between statements. -/
def ExecutablesOutside (d : Dialect) (lines : List Text) : Prop :=
  ∀ a line b, lines = a ++ line :: b → (run d {} a).Admits d line

namespace ExecutablesOutside

theorem of_append {a b : List Text} (h : ExecutablesOutside d (a ++ b)) :
    ExecutablesOutside d a := by
  intro c line e he
  refine h c line (e ++ b) ?_
  rw [he, List.append_assoc, List.cons_append]

theorem last (h : ExecutablesOutside d (lines ++ [line])) : (run d {} lines).Admits d line :=
  h lines line [] rfl

theorem apart (h : ExecutablesOutside d lines) : (run d {} lines).Apart := by
  induction lines using List.reverseRecOn with
  | nil =>
    intro hd
    contradiction
  | append_singleton lines line ih =>
    rw [run_append]
    exact h.last.apart (ih h.of_append)

end ExecutablesOutside

/-- A comment that is open behind the lines `a` began on the line `opening`, and since then there
were only blank lines and lines of the comment. -/
structure OpenSince (d : Dialect) (a earlier : List Text) (opening : Text) (inside : List Text) :
    Prop where
  eq : a = earlier ++ opening :: inside
  outside : (run d {} earlier).gap.inComment = false
  marked : startsBlockComment (Text.trim opening) = true
  opens : ((run d {} earlier).step d opening).role = some (.comment true)
  within : ∀ t ∈ (run d {} (earlier ++ [opening])).turns d inside,
    t.role = some .blank ∨ t.role = some (.comment true)

theorem OpenSince.concat {earlier inside : List Text} {opening : Text}
    (h : OpenSince d lines earlier opening inside)
    (hr : ((run d {} lines).step d line).role = some .blank ∨
      ((run d {} lines).step d line).role = some (.comment true)) :
    OpenSince d (lines ++ [line]) earlier opening (inside ++ [line]) where
  eq := by rw [h.eq, List.append_assoc, List.cons_append]
  outside := h.outside
  marked := h.marked
  opens := h.opens
  within := by
    have hrun : (run d {} (earlier ++ [opening])).run d inside = run d {} lines := by
      rw [← run_append, List.append_assoc, List.singleton_append, ← h.eq]
    intro t ht
    rw [turns_append, hrun] at ht
    rcases List.mem_append.mp ht with ht | ht
    · exact h.within t ht
    · rw [List.mem_singleton.mp ht]
      exact hr

theorem ExecutablesOutside.exists_openSince (h : ExecutablesOutside d lines)
    (hc : (run d {} lines).gap.inComment = true) :
    ∃ earlier opening inside, OpenSince d lines earlier opening inside := by
  -- From the end: the last line opens the comment or was met inside of it.
  induction lines using List.reverseRecOn with
  | nil => contradiction
  | append_singleton lines line ih =>
    have hafter : ((run d {} lines).step d line).after.gap.inComment = true := by
      rw [run_append] at hc
      exact hc
    have hp : (run d {} lines).draft = none := by
      by_contra hd
      have hclosed := h.last.closed h.of_append.apart (draft_step hd)
      rw [hafter] at hclosed
      contradiction
    rw [gap_step, role_step hp, Option.elim_some] at hafter
    cases hg : (run d {} lines).gap.inComment with
    | true =>
      obtain ⟨earlier, opening, inside, hopen⟩ := ih h.of_append hg
      refine ⟨earlier, opening, inside ++ [line], hopen.concat ?_⟩
      rw [role_step hp, Option.some.injEq, Option.some.injEq]
      rcases Gap.role_of_inComment hg (h.last hp hg) with hb | hm
      · exact .inl hb
      · rw [hm] at hafter ⊢
        exact .inr (congrArg Role.comment hafter)
    | false =>
      have hr := Gap.comment_of_after hg hafter
      refine ⟨lines, line, [], rfl, hg, Gap.startsBlockComment_of_role hg hr, ?_, ?_⟩
      · rw [role_step hp, hr]
      · intro t ht
        contradiction

/-- Comments between statements and statements keep apart at every point of the run. -/
structure CommentsApart (d : Dialect) (lines : List Text) : Prop where
  /-- A statement starts only where no comment is open. -/
  starts : ∀ a line b, lines = a ++ line :: b →
    ((run d {} a).step d line).role = some .start → (run d {} a).gap.inComment = false
  /-- No comment is open right behind a statement. -/
  ended : ∀ a line b s, lines = a ++ line :: b → ((run d {} a).step d line).ended? = some s →
    ((run d {} a).step d line).after.gap.inComment = false
  /-- An open comment takes in every line up to the one that closes it. -/
  held : ∀ a line b, lines = a ++ line :: b → (run d {} a).draft = none →
    (run d {} a).gap.inComment = true → ((run d {} a).step d line).role = some .blank ∨
      ((run d {} a).step d line).role = some (.comment !endsBlockComment (Text.trim line))
  /-- No statement stands between the beginning of a comment and a point where it is open. -/
  since : ∀ a b, lines = a ++ b → (run d {} a).gap.inComment = true →
    ∃ earlier opening inside, OpenSince d a earlier opening inside

theorem CommentsApart.executablesOutside (h : CommentsApart d lines) :
    ExecutablesOutside d lines := by
  intro a line b heq hp hg
  rw [← Bool.not_eq_true]
  intro hx
  obtain ⟨hblank, hcomment⟩ := Gap.role_of_executable (g := (run d {} a).gap) hx
  rcases h.held a line b heq hp hg with hr | hr
  · rw [role_step hp, Option.some.injEq] at hr
    exact hblank hr
  · rw [role_step hp, Option.some.injEq] at hr
    exact hcomment _ hr

theorem ExecutablesOutside.commentsApart (h : ExecutablesOutside d lines) :
    CommentsApart d lines where
  starts := by
    intro a line b heq hr
    exact (h a line b heq).starts hr
  ended := by
    intro a line b s heq hs
    subst heq
    exact (h a line b rfl).closed h.of_append.apart (Turn.draft_of_ended? hs)
  held := by
    intro a line b heq hp hg
    exact (h a line b heq).held hp hg
  since := by
    intro a b heq hc
    subst heq
    exact h.of_append.exists_openSince hc

theorem commentsApart_of_ne (hd : d ≠ .mysql) (lines : List Text) : CommentsApart d lines := by
  refine ExecutablesOutside.commentsApart ?_
  intro a line b heq hp hg
  simp [Dialect.isExecutableComment, hd]

/-- Comments and statements keep apart in exactly those scripts in which no executable comment is
met inside an open comment. In a dialect without executable comments that is every script. -/
theorem commentsApart_iff (d : Dialect) (lines : List Text) :
    (CommentsApart d lines ↔ ExecutablesOutside d lines) ∧
      (d ≠ .mysql → CommentsApart d lines) := by
  refine ⟨⟨fun h => h.executablesOutside, fun h => h.commentsApart⟩, ?_⟩
  exact fun hd => commentsApart_of_ne hd lines

/-- A comment that is closed by an executable one: the executable comment starts a statement, and
the statement behind it is dropped. -/
theorem not_commentsApart_executable :
    Cutting.split ⟨.mysql, false⟩ ["/* old:".toList, "/*!40101 SET NAMES utf8 */".toList,
        "SELECT 1;".toList, "SELECT 2;".toList] =
        [⟨2, "/*!40101 SET NAMES utf8 */\nSELECT 1;".toList⟩] ∧
      ¬ CommentsApart .mysql ["/* old:".toList, "/*!40101 SET NAMES utf8 */".toList,
        "SELECT 1;".toList, "SELECT 2;".toList] := by
  refine ⟨by decide +kernel, ?_⟩
  intro h
  have hclosed := h.starts ["/* old:".toList] _ _ rfl (by decide +kernel)
  revert hclosed
  decide +kernel

end Progress
end MigrationScript
