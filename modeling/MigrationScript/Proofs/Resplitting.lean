import MigrationScript.Proofs.Lines
import MigrationScript.Proofs.Numbering
import MigrationScript.Proofs.Roles

/-!
Splitting what was split. Without directives, nothing that stands between statements has a part in
them, so the statements of a script, written one below the other, make up a script that has the same
statements. That is the main result.
-/
namespace MigrationScript

/-- The line sets a delimiter. -/
def Role.isDirective : Role → Bool
  | .directive _ => true
  | _ => false

namespace Progress

variable {d : Dialect} {n : Int} {g : Gap} {p : Progress} {lines : List Text}

/-- None of the lines sets a delimiter. -/
def SetsNoDelimiter (d : Dialect) (p : Progress) (lines : List Text) : Prop :=
  ∀ t ∈ p.turns d lines, t.role.any Role.isDirective = false

instance : Decidable (SetsNoDelimiter d p lines) :=
  inferInstanceAs (Decidable (∀ t ∈ p.turns d lines, t.role.any Role.isDirective = false))

theorem SetsNoDelimiter.append_right {a b : List Text} (h : SetsNoDelimiter d p (a ++ b)) :
    SetsNoDelimiter d (p.run d a) b := by
  intro t ht
  refine h t ?_
  rw [turns_append]
  exact List.mem_append_right _ ht

theorem SetsNoDelimiter.delimiter_after {line : Text}
    (h : SetsNoDelimiter d ⟨n, g, none⟩ (line :: lines)) (hr : g.role d line ≠ .start) :
    (g.after (g.role d line)).delimiter = g.delimiter := by
  have hturn := h _ List.mem_cons_self
  rw [step_between hr] at hturn
  have hrole : (g.role d line).isDirective = false := hturn
  cases hx : g.role d line with
  | directive x =>
    rw [hx] at hrole
    contradiction
  | _ => rfl

end Progress

namespace Gap

variable {d : Dialect} {g : Gap} {line : Text}

theorem close_eq (hg : g.delimiter = none) : g.close = {} := by
  rw [close, hg]

/-- A line that starts a statement does so also at the beginning of a script. -/
theorem role_of_start (hg : g.delimiter = none) (h : g.role d line = .start) :
    ({} : Gap).role d line = .start := by
  rw [← close_eq hg, role_close (by rw [h]; rfl), h]

/-- A statement that starts without a directive in force could be the first of a script. -/
theorem fresh_eq_shift (hg : g.delimiter = none) (n m : Int) :
    ({} : Gap).fresh m = (g.fresh n).shift (m - n) := by
  rw [fresh_shift, fresh, fresh, hg]
  simp only [Draft.mk.injEq, and_true]
  omega

end Gap

namespace Progress

variable {d : Dialect} {n : Int} {g : Gap} {lines : List Text} {ss : List Draft}

/-- The lines of the statements alone, without those that were dropped between them, are laid out
like the whole script. -/
theorem Layout.compact (h : Layout d n g lines ss) (hg : g.delimiter = none)
    (hd : SetsNoDelimiter d ⟨n, g, none⟩ lines) (m : Int) :
    ∃ ss', Layout d m {} (ss.flatMap Draft.lines) ss' ∧
      ss'.map Draft.lines = ss.map Draft.lines := by
  induction h generalizing m with
  | done => exact ⟨[], .done, rfl⟩
  | @dropped n g line lines ss role rest ih =>
    have hnext := SetsNoDelimiter.append_right (a := [line]) hd
    rw [run_cons, step_between role] at hnext
    exact ih (by rw [hd.delimiter_after role, hg]) hnext m
  | @ended n g first more lines ss role ends rest ih =>
    have hnext := hd.append_right
    rw [(run_fresh_ended role ends).1] at hnext
    have hends : (({} : Gap).fresh m).EndsAt d (first :: more) := by
      rw [Gap.fresh_eq_shift hg n m]
      exact ends.shift _
    obtain ⟨ss', hlayout, hlines⟩ := ih hg hnext (m + (first :: more).length)
    rw [List.flatMap_cons, Gap.lines_fresh]
    refine ⟨_, .ended (Gap.role_of_start hg role) hends hlayout, ?_⟩
    rw [List.map_cons, List.map_cons, Gap.lines_fresh, Gap.lines_fresh, hlines]
  | @leftOpen n g first more role opens =>
    have hopens : ((({} : Gap).fresh m).addAll d (first :: more)).terminated = false := by
      rw [Gap.fresh_eq_shift hg n m, Draft.addAll_shift, Draft.terminated_shift, opens]
    rw [List.flatMap_cons, List.flatMap_nil, List.append_nil, Gap.lines_fresh]
    refine ⟨_, .leftOpen (Gap.role_of_start hg role) hopens, ?_⟩
    rw [List.map_singleton, List.map_singleton, Gap.lines_fresh, Gap.lines_fresh]

end Progress

theorem map_text (ss : List Draft) :
    ss.map Draft.text = (ss.map Draft.lines).map Text.joinLines := by
  rw [List.map_map]
  rfl

/-- The lines of some statements are told apart again in the text that they make up. -/
theorem pieces_joinLines_texts {ss : List Draft} (hss : ss ≠ []) (hne : ∀ s ∈ ss, s.lines ≠ [])
    (hl : ∀ s ∈ ss, ∀ line ∈ s.lines, '\n' ∉ line) :
    Text.pieces (· == '\n') (Text.joinLines (ss.map Draft.text)) = ss.flatMap Draft.lines := by
  have hblocks : ∀ b ∈ ss.map Draft.lines, b ≠ [] := by
    intro b hb
    obtain ⟨s, hs, rfl⟩ := List.mem_map.mp hb
    exact hne s hs
  rw [map_text, Text.joinLines_flatten hblocks, ← List.flatMap_def]
  refine Text.pieces_joinLines ?_ ?_
  · obtain ⟨s, ss, rfl⟩ := List.exists_cons_of_ne_nil hss
    rw [List.flatMap_cons]
    exact List.append_ne_nil_of_left_ne_nil (hne s List.mem_cons_self) _
  · intro line hline
    obtain ⟨s, hs, hline⟩ := List.mem_flatMap.mp hline
    exact hl s hs line hline

namespace Cutting

open Progress Text

/-- The texts of the statements of a script. -/
theorem sql_split (d : Dialect) (lines : List Text) :
    (split ⟨d, false⟩ lines).map Statement.sql = (drafts d {} lines).map Draft.text := by
  rw [split_eq, List.map_map]
  rfl

/-- The statements of a script without directives are found again in the text that they make up,
one below the other. -/
theorem split_joined (d : Dialect) (lines : List Text) (hl : ∀ line ∈ lines, '\n' ∉ line)
    (hd : SetsNoDelimiter d {} lines) :
    (split ⟨d, false⟩ (pieces (· == '\n')
        (joinLines ((split ⟨d, false⟩ lines).map Statement.sql)))).map Statement.sql =
      (split ⟨d, false⟩ lines).map Statement.sql := by
  have hlayout : Layout d 1 {} lines (drafts d {} lines) := layout_drafts d 1 {} lines
  rw [sql_split, sql_split]
  by_cases hss : drafts d {} lines = []
  · rw [hss]
    rfl
  · have hlines : ∀ s ∈ drafts d {} lines, ∀ line ∈ s.lines, '\n' ∉ line := by
      intro s hs line hline
      exact hl line ((assembled_drafts d lines s hs).2 hline)
    obtain ⟨ss, hcompact, heq⟩ := hlayout.compact rfl hd 1
    have hdrafts : ss = drafts d {} ((drafts d {} lines).flatMap Draft.lines) :=
      hcompact.eq_drafts
    rw [pieces_joinLines_texts hss hlayout.lines_ne_nil hlines, ← hdrafts, map_text, heq,
      ← map_text]

/-- An executable comment starts a statement while a comment is open, and that comment goes on
behind the statement. -/
theorem split_joined_open_comment :
    (∀ line ∈ ["/* a".toList, "/*!40101 SET @x = 1 */".toList, "/* b */ ;".toList, "c".toList,
        "*/".toList, "SELECT".toList, "2".toList], '\n' ∉ line) ∧
      SetsNoDelimiter .mysql {} ["/* a".toList, "/*!40101 SET @x = 1 */".toList,
        "/* b */ ;".toList, "c".toList, "*/".toList, "SELECT".toList, "2".toList] ∧
      (split ⟨.mysql, false⟩ (pieces (· == '\n') (joinLines ((split ⟨.mysql, false⟩
        ["/* a".toList, "/*!40101 SET @x = 1 */".toList, "/* b */ ;".toList, "c".toList,
        "*/".toList, "SELECT".toList, "2".toList]).map Statement.sql)))).map Statement.sql =
        ["/*!40101 SET @x = 1 */\n/* b */ ;".toList, "SELECT\n2".toList] := by
  refine ⟨by decide, by decide +kernel, ?_⟩
  rw [split_joined .mysql _ (by decide) (by decide +kernel)]
  decide +kernel

end Cutting
end MigrationScript
