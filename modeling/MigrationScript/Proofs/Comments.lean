import MigrationScript.Proofs.Reading
import MigrationScript.Proofs.Roles

/-!
Comments between statements. The rule that drops a line there looks at its two ends only; a scan
follows comments through the line. Main statement: the two agree on exactly those lines that
consist of comments and white space and end with a closing mark if no comment stays open.
-/
namespace MigrationScript

/-- A text of comments and white space, which is met inside a block comment or not and leaves one
open or not. -/
inductive OnlyComments (d : Dialect) : Bool → Text → Bool → Prop where
  | done (inside : Bool) : OnlyComments d inside [] inside
  | blank {c : Char} {t : Text} {o : Bool} (hc : isBlank c = true)
      (rest : OnlyComments d false t o) : OnlyComments d false (c :: t) o
  | lineComment {c : Char} {t : Text} (hl : d.startsLineComment (c :: t) = true) :
      OnlyComments d false (c :: t) false
  | commentStart {t : Text} {o : Bool} (rest : OnlyComments d true t o) :
      OnlyComments d false ('/' :: '*' :: t) o
  | commentEnd {t : Text} {o : Bool} (rest : OnlyComments d false t o) :
      OnlyComments d true ('*' :: '/' :: t) o
  | inComment {c : Char} {t : Text} {o : Bool} (hc : ['*', '/'].isPrefixOf (c :: t) = false)
      (rest : OnlyComments d true t o) : OnlyComments d true (c :: t) o

/-- The mode of a scan that is inside a block comment or in code. -/
def Mode.ofComment (inside : Bool) : Mode :=
  if inside then .comment else .code

/-- No code but white space. -/
def BlankCode (code : Text) : Prop :=
  ∀ c ∈ code, isBlank c = true

namespace Dialect

variable {d : Dialect} {b : Option Char} {c : Char} {t : Text}

theorem startsLineComment_append (h : d.startsLineComment t = true) (w : Text) :
    d.startsLineComment (t ++ w) = true := by
  simp only [startsLineComment, Bool.or_eq_true, Bool.and_eq_true,
    List.isPrefixOf_iff_prefix] at h ⊢
  rcases h with h | ⟨hd, h⟩
  · exact .inl (h.trans (List.prefix_append t w))
  · exact .inr ⟨hd, h.trans (List.prefix_append t w)⟩

/-- White space is code that starts nothing. -/
theorem Token.of_blank (hc : isBlank c = true) : d.Token .code b (c :: t) [c] .code (some c) t := by
  obtain ⟨hline, hblock, hopen⟩ := starts_blank d b (.inr ⟨c, t, hc, rfl⟩)
  exact .inCode hline hblock hopen

end Dialect

/-- Nothing but white space is read as code in comments and white space, and the reading ends
inside a block comment if one is left open. -/
theorem OnlyComments.read {d : Dialect} {inside o : Bool} {t : Text}
    (h : OnlyComments d inside t o) (b : Option Char) :
    BlankCode (d.read (.ofComment inside) b t).1 ∧
      (d.read (.ofComment inside) b t).2 = .ofComment o := by
  induction h generalizing b with
  | done inside =>
    rw [Dialect.read_nil]
    exact ⟨by simp [BlankCode], rfl⟩
  | @blank c t o hc rest ih =>
    obtain ⟨hcode, hmode⟩ := ih (some c)
    rw [Mode.ofComment, if_neg Bool.false_ne_true, Dialect.read_token (.of_blank hc)]
    exact ⟨List.forall_mem_cons.mpr ⟨hc, hcode⟩, hmode⟩
  | lineComment hl =>
    rw [Mode.ofComment, if_neg Bool.false_ne_true, Dialect.read_token (.lineComment hl),
      Dialect.read_nil]
    exact ⟨by simp [BlankCode, prepend], rfl⟩
  | commentStart rest ih =>
    rw [Mode.ofComment, if_neg Bool.false_ne_true, Dialect.read_token (.commentStart _)]
    exact ih (some '*')
  | commentEnd rest ih =>
    rw [Mode.ofComment, if_pos rfl, Dialect.read_token (.commentEnd _)]
    exact ih (some '/')
  | @inComment c t o hc rest ih =>
    rw [Mode.ofComment, if_pos rfl, Dialect.read_token (.inComment hc)]
    exact ih (some c)

/-- A text in which no code but white space is read consists of comments and white space. -/
theorem exists_onlyComments {d : Dialect} {inside : Bool} {b : Option Char} {t : Text}
    (h : BlankCode (d.read (.ofComment inside) b t).1) : ∃ o, OnlyComments d inside t o := by
  generalize hm : Mode.ofComment inside = m at h
  induction m, b, t using Dialect.token_induction d generalizing inside with
  | nil m b => exact ⟨inside, .done inside⟩
  | token ht ih =>
    rw [Dialect.read_token ht] at h
    cases inside with
    | false =>
      obtain rfl : Mode.code = _ := hm
      cases ht with
      | lineComment hl => exact ⟨false, .lineComment hl⟩
      | commentStart r =>
        obtain ⟨o, ho⟩ := ih (show Mode.ofComment true = .comment from rfl) h
        exact ⟨o, .commentStart ho⟩
      | literalStart r hl hb ho =>
        have hs := (Dialect.proper_of_opener? ho).solid _ List.mem_cons_self
        have hc := h _ List.mem_cons_self
        rw [hs] at hc
        contradiction
      | inCode hl hb ho =>
        obtain ⟨hc, hr⟩ := List.forall_mem_cons.mp h
        obtain ⟨o, ho⟩ := ih (show Mode.ofComment false = .code from rfl) hr
        exact ⟨o, .blank hc ho⟩
    | true =>
      obtain rfl : Mode.comment = _ := hm
      cases ht with
      | commentEnd r =>
        obtain ⟨o, ho⟩ := ih (show Mode.ofComment false = .code from rfl) h
        exact ⟨o, .commentEnd ho⟩
      | inComment hc =>
        obtain ⟨o, ho⟩ := ih (show Mode.ofComment true = .comment from rfl) h
        exact ⟨o, .inComment hc ho⟩

theorem OnlyComments.append_blank {d : Dialect} {t w : Text} {o : Bool}
    (hw : ∀ c ∈ w, isBlank c = true) (h : OnlyComments d false t o) :
    OnlyComments d false (w ++ t) o := by
  induction w with
  | nil => exact h
  | cons c w ih =>
    obtain ⟨hc, hw⟩ := List.forall_mem_cons.mp hw
    exact .blank hc (ih hw)

namespace Gap

/-- A scan of the line sees no code in it but white space, and a block comment is open after the
scan if one is open for the lines that follow. -/
def Agrees (d : Dialect) (g : Gap) (line : Text) : Prop :=
  BlankCode (Scan.ofLine d (.ofComment g.inComment) line).code ∧
    ((Scan.ofLine d (.ofComment g.inComment) line).mode = .comment ↔
      (g.after (g.role d line)).inComment = true)

variable {d : Dialect} {g : Gap} {line : Text} {o : Bool}

private theorem agrees_iff (h : g.role d line = .comment o) :
    g.Agrees d line ↔ OnlyComments d g.inComment line o := by
  have ho : (g.after (g.role d line)).inComment = o := by rw [h]; rfl
  simp only [Agrees, ho]
  constructor
  · rintro ⟨hcode, hmode⟩
    obtain ⟨u, hu⟩ := exists_onlyComments hcode
    have he : (Scan.ofLine d (.ofComment g.inComment) line).mode = .ofComment u := (hu.read none).2
    have huo : u = o := by
      rw [he] at hmode
      cases u <;> cases o <;> simp [Mode.ofComment] at hmode ⊢
    rw [← huo]
    exact hu
  · intro hu
    obtain ⟨hcode, hmode⟩ := hu.read none
    have hmode : (Scan.ofLine d (.ofComment g.inComment) line).mode = .ofComment o := hmode
    refine ⟨hcode, ?_⟩
    rw [hmode]
    cases o <;> simp [Mode.ofComment]

/-- A line that is dropped but neither lies in a block comment nor starts one is a line comment. -/
private theorem onlyComments_of_lineComment (h : g.role d line = .comment o)
    (hg : g.inComment = false) (hs : startsBlockComment (Text.trim line) = false) :
    OnlyComments d g.inComment line o := by
  obtain ⟨hl, rfl⟩ : d.startsLineComment (Text.trim line) = true ∧ o = false := by
    have hd := g.decides d line
    rw [h] at hd
    cases hd with
    | blockComment solid plain inside => simp [hg, hs] at inside
    | lineComment solid plain outside marked => exact ⟨marked, rfl⟩
  have hstart : d.startsLineComment (Text.trimStart line) = true := by
    obtain ⟨w, hw, -⟩ := Text.dropEnd_append isBlank (Text.trimStart line)
    rw [hw]
    exact Dialect.startsLineComment_append hl w
  have hline : line = line.takeWhile isBlank ++ Text.trimStart line :=
    (List.takeWhile_append_dropWhile).symm
  rw [hg, hline]
  apply OnlyComments.append_blank
  · exact List.all_eq_true.mp List.all_takeWhile
  · cases ht : Text.trimStart line with
    | nil => exact .done false
    | cons c t =>
      rw [ht] at hstart
      exact .lineComment hstart

/-- The rule for dropping comments agrees with a scan on exactly the lines of comments and white
space after which, by the rule, a comment is open if one really is. On line comments the two always
agree. -/
theorem agrees_iff_onlyComments (d : Dialect) (g : Gap) (line : Text) (o : Bool)
    (h : g.role d line = .comment o) :
    (g.Agrees d line ↔ OnlyComments d g.inComment line o) ∧
      (g.inComment = false → startsBlockComment (Text.trim line) = false → g.Agrees d line) :=
  ⟨agrees_iff h, fun hg hs => (agrees_iff h).mpr (onlyComments_of_lineComment h hg hs)⟩

/-- A second comment that stays open. -/
theorem agrees_iff_open_comment :
    ({} : Gap).role .mysql "/* a */ /* b".toList = .comment true ∧
      ((({} : Gap).Agrees .mysql "/* a */ /* b".toList ↔
          OnlyComments .mysql false "/* a */ /* b".toList true) ∧
        (({} : Gap).inComment = false →
          startsBlockComment (Text.trim "/* a */ /* b".toList) = false →
          ({} : Gap).Agrees .mysql "/* a */ /* b".toList)) :=
  ⟨by decide, agrees_iff_onlyComments .mysql {} _ true (by decide)⟩

/-- Code behind a comment is dropped with it. -/
theorem not_agrees_code_behind_comment :
    ({} : Gap).role .generic "/* a */ SELECT 1;".toList = .comment true ∧
      ¬ ({} : Gap).Agrees .generic "/* a */ SELECT 1;".toList := by
  refine ⟨by decide, ?_⟩
  intro h
  have hs := h.1 'S' (by decide +kernel)
  revert hs
  decide

end Gap
end MigrationScript
