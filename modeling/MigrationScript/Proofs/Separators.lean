import MigrationScript.Proofs.Numbering
import MigrationScript.Proofs.OpenComments
import MigrationScript.Proofs.Placement
import MigrationScript.Proofs.Stripping

/-!
Delimiters that stand alone, met where there is no statement to end. Main statements: a delimiter
that is repeated behind the statement it ended is dropped only by the dialect whose statements all
have that delimiter; and a batch is empty only where a line between batches is a delimiter in its
code, but not as it is written.
-/
namespace MigrationScript

open Text

/-- The text is empty or white space. -/
def Statement.Blank (s : Statement) : Prop :=
  ∀ c ∈ s.sql, isBlank c = true

instance (s : Statement) : Decidable s.Blank :=
  inferInstanceAs (Decidable (∀ c ∈ s.sql, isBlank c = true))

/-- Once more the delimiter: all that the line holds but white space, in any letter case. -/
def Delimiter.Repeats (x : Delimiter) (line : Text) : Prop :=
  upper (trim line) = upper x.text

instance (x : Delimiter) (line : Text) : Decidable (x.Repeats line) :=
  inferInstanceAs (Decidable (_ = _))

/-- Where there are no directives, none set a delimiter. -/
theorem Dialect.none_of_sets {d : Dialect} {o : Option Delimiter} (hd : d ≠ .mysql)
    (h : ∀ x, o = some x → d.Sets x) : o = none := by
  rw [Option.eq_none_iff_forall_ne_some]
  intro x hx
  exact hd (h x hx).eq_mysql

namespace Draft

/-- The statements that end at a delimiter standing alone: batches, program units and copies. -/
inductive EndsAlone (d : Dialect) (s : Draft) : Prop where
  | batch (dialect : d = .tsql) (eq : s.delimiter d = ⟨['G', 'O'], true⟩)
  | special (dialect : d = .oracle ∨ d = .postgres) (eq : s.delimiter d = d.specialDelimiter)

variable {d : Dialect} {s : Draft}

theorem endsAlone (ho : ∀ x, s.override = some x → d.Sets x) (h : (s.delimiter d).alone = true) :
    EndsAlone d s := by
  have hover : s.override = none := by
    rw [Option.eq_none_iff_forall_ne_some]
    intro x hx
    have hx' : s.delimiter d = x := by rw [delimiter, hx, Option.getD_some]
    rw [hx', (ho x hx).alone] at h
    contradiction
  have hown : s.delimiter d = if s.special then d.specialDelimiter else d.delimiter := by
    rw [delimiter, hover, Option.getD_none]
  split at hown
  next =>
    cases d with
    | tsql => exact .batch rfl hown
    | oracle => exact .special (.inl rfl) hown
    | postgres => exact .special (.inr rfl) hown
    | _ =>
      rw [hown] at h
      contradiction
  next =>
    cases d with
    | tsql => exact .batch rfl hown
    | _ =>
      rw [hown] at h
      contradiction

/-- All statements of that dialect end at the same delimiter. -/
theorem delimiter_of_batch (ho : ∀ x, s.override = some x → Dialect.tsql.Sets x) :
    s.delimiter .tsql = Dialect.tsql.delimiter := by
  rw [delimiter, Dialect.none_of_sets (by simp) ho, Option.getD_none]
  exact ite_self _

end Draft

namespace Text

theorem blank_of_trimEnd {t : Text} (h : ∀ c ∈ trimEnd t, isBlank c = true) :
    ∀ c ∈ t, isBlank c = true := by
  obtain ⟨w, hw, hblank⟩ := dropEnd_append isBlank t
  intro c hc
  rw [hw] at hc
  rcases List.mem_append.mp hc with hc | hc
  · exact h c hc
  · exact hblank c hc

/-- Lines are not blank together if the first is not. -/
theorem not_blank_joinLines {first : Text} (h : trim first ≠ []) (more : List Text) :
    ¬ ∀ c ∈ joinLines (first :: more), isBlank c = true := by
  obtain ⟨c, t, ht⟩ := List.exists_cons_of_ne_nil h
  obtain ⟨hc, -⟩ := trimStart_of_trim ht
  have hmem : c ∈ joinLines (first :: more) := by
    have hfirst : c ∈ first := trim_subset first (by rw [ht]; exact List.mem_cons_self)
    have hstart := joinLines_prefix [first] more
    rw [joinLines_singleton] at hstart
    exact hstart.subset hfirst
  intro hblank
  rw [hblank c hmem] at hc
  contradiction

end Text

namespace Gap

variable {g : Gap} {line : Text}

theorem solid_of_start {d : Dialect} (h : g.role d line = .start) : trim line ≠ [] := by
  have hd := g.decides d line
  rw [h] at hd
  cases hd with
  | start solid => exact solid

/-- Between batches a delimiter is a separator, unless a comment is open. -/
theorem role_of_batch (hg : g.inComment = false) (hx : g.delimiter = none)
    (h : Delimiter.Repeats ⟨['G', 'O'], true⟩ line) : g.role .tsql line = .separator := by
  have hupper : upper (trim line) = ['G', 'O'] := h
  have hfirst {c : Char} {t : Text} (hc : upperChar c = [c]) (ht : trim line = c :: t) :
      c = 'G' := by
    rw [ht, upper, List.flatMap_cons, hc] at hupper
    exact (List.cons.inj hupper).1
  have hd := g.decides .tsql line
  generalize g.role .tsql line = r at hd ⊢
  cases hd with
  | blank empty =>
    rw [empty] at hupper
    contradiction
  | blockComment solid plain inside =>
    rw [hg, Bool.false_or] at inside
    obtain ⟨t, ht⟩ := List.isPrefixOf_iff_prefix.mp inside
    exact absurd (hfirst (by decide) ht.symm) (by decide)
  | lineComment solid plain outside marked =>
    have hdash : ['-', '-'].isPrefixOf (trim line) = true := by
      simpa [Dialect.startsLineComment] using marked
    obtain ⟨t, ht⟩ := List.isPrefixOf_iff_prefix.mp hdash
    exact absurd (hfirst (by decide) ht.symm) (by decide)
  | directive solid code sets =>
    have := (Dialect.words_of_directive? sets).1
    contradiction
  | separator => rfl
  | start solid code keeps other =>
    rw [activeDelimiter, hx] at other
    exact absurd h (other rfl)

/-- The special delimiters of the other dialects start a statement. -/
theorem role_of_special {d : Dialect} (hd : d = .oracle ∨ d = .postgres) (hg : g.inComment = false)
    (hx : g.delimiter = none) (h : d.specialDelimiter.Repeats line) : g.role d line = .start := by
  obtain ⟨o, x⟩ := g
  obtain rfl : o = false := hg
  obtain rfl : x = none := hx
  rcases hd with rfl | rfl
  · have htrim : trim line = ['/'] := (upper_eq_iff (by decide)).mp h
    simp only [role, htrim]
    rfl
  · have htrim : trim line = ['\\', '.'] := (upper_eq_iff (by decide)).mp h
    simp only [role, htrim]
    rfl

end Gap

namespace Progress

variable {d : Dialect} {p : Progress} {a repeats : List Text} {last : Text} {s : Draft} {n : Int}
  {g : Gap}

theorem setByDirective_step (hp : p.gap.SetByDirective d) (line : Text) :
    (p.step d line).after.gap.SetByDirective d := by
  have h := p.takesTurn d line
  generalize p.step d line = t at h ⊢
  cases h with
  | added => exact hp
  | started role => exact hp
  | dropped role => exact hp.after line

theorem setByDirective_run (hp : p.gap.SetByDirective d) (lines : List Text) :
    (p.run d lines).gap.SetByDirective d := by
  induction lines generalizing p with
  | nil => exact hp
  | cons line lines ih => exact ih (setByDirective_step hp line)

/-- An ended statement is left at once. -/
theorem draft_of_ended {line : Text} (hs : (p.step d line).ended? = some s) :
    (p.step d line).after.draft = none := by
  have ht := Turn.terminated_of_ended? hs
  have h := p.takesTurn d line
  generalize p.step d line = t at h hs ⊢
  cases h with
  | added =>
    obtain ⟨rfl, -⟩ : _ = s ∧ _ := by simpa [Turn.ended?, Option.filter_eq_some_iff] using hs
    simp [keep, ht]
  | started role =>
    obtain ⟨rfl, -⟩ : _ = s ∧ _ := by simpa [Turn.ended?, Option.filter_eq_some_iff] using hs
    simp [keep, ht]
  | dropped role => rfl

/-- Behind a statement of a dialect without directives no comment is open, no delimiter is set, and
no statement is in progress. -/
theorem run_of_ended (hd : d ≠ .mysql) (hs : ((run d {} a).step d last).ended? = some s) :
    ∃ n, run d {} (a ++ [last]) = ⟨n, {}, none⟩ := by
  have hclosed := (commentsApart_of_ne hd (a ++ [last])).ended a last [] s rfl hs
  have hset := setByDirective_run (p := {}) (Gap.setByDirective_start d) (a ++ [last])
  have hafter : run d {} (a ++ [last]) = ((run d {} a).step d last).after := run_append _ _ _
  have hdraft := draft_of_ended hs
  rw [hafter] at hset ⊢
  generalize ((run d {} a).step d last).after = q at hclosed hset hdraft ⊢
  obtain ⟨n, ⟨o, x⟩, r⟩ := q
  obtain rfl : o = false := hclosed
  obtain rfl : r = none := hdraft
  obtain rfl : x = none := Dialect.none_of_sets hd hset
  exact ⟨n, rfl⟩

/-- Lines that change nothing between statements leave nothing behind but their number. -/
theorem run_unchanged
    (hr : ∀ line ∈ repeats, g.role d line ≠ .start ∧ g.after (g.role d line) = g) :
    (∀ t ∈ turns d ⟨n, g, none⟩ repeats, t.draft = none) ∧
      run d ⟨n, g, none⟩ repeats = ⟨n + repeats.length, g, none⟩ := by
  induction repeats generalizing n with
  | nil => simp [turns, run]
  | cons line repeats ih =>
    obtain ⟨⟨hstart, hafter⟩, hrepeats⟩ := List.forall_mem_cons.mp hr
    obtain ⟨hturns, hrun⟩ := ih (n := n + 1) hrepeats
    constructor
    · rw [turns, step_between hstart, hafter]
      exact List.forall_mem_cons.mpr ⟨rfl, hturns⟩
    · rw [run_cons, step_between hstart, hafter, hrun, List.length_cons]
      simp only [Progress.mk.injEq, and_true]
      omega

/-- Between batches repeated delimiters leave behind what as many empty lines do. -/
theorem run_repeats (hr : ∀ line ∈ repeats, Delimiter.Repeats ⟨['G', 'O'], true⟩ line) :
    (∀ t ∈ turns .tsql ⟨n, {}, none⟩ repeats, t.draft = none) ∧
      run .tsql ⟨n, {}, none⟩ repeats =
        run .tsql ⟨n, {}, none⟩ (List.replicate repeats.length []) := by
  have hrepeats : ∀ line ∈ repeats, ({} : Gap).role .tsql line ≠ .start ∧
      ({} : Gap).after (({} : Gap).role .tsql line) = {} := by
    intro line hline
    rw [Gap.role_of_batch rfl rfl (hr line hline)]
    exact ⟨by simp, rfl⟩
  have hempty : ∀ line ∈ List.replicate repeats.length [], ({} : Gap).role .tsql line ≠ .start ∧
      ({} : Gap).after (({} : Gap).role .tsql line) = {} := by
    intro line hline
    rw [List.eq_of_mem_replicate hline]
    exact ⟨by decide, rfl⟩
  obtain ⟨hturns, hrun⟩ := run_unchanged (n := n) hrepeats
  refine ⟨hturns, ?_⟩
  rw [hrun, (run_unchanged hempty).2, List.length_replicate]

theorem mem_drafts_of_ended (hs : ((run d {} a).step d last).ended? = some s) (b : List Text) :
    s ∈ drafts d {} (a ++ last :: b) := by
  rw [drafts_append, drafts_cons, hs]
  simp

/-- A delimiter that ended a statement while it stood alone, and that is repeated on the lines that
follow, starts no statement and belongs to none exactly if all statements of the dialect have that
delimiter. It is as if the lines were empty then. -/
theorem outside_iff_batches (hs : ((run d {} a).step d last).ended? = some s)
    (halone : (s.delimiter d).alone = true) (hne : repeats ≠ [])
    (hr : ∀ line ∈ repeats, (s.delimiter d).Repeats line) :
    ((∀ t ∈ (run d {} (a ++ [last])).turns d repeats, t.draft = none) ↔ d = .tsql) ∧
      (d = .tsql → run d {} (a ++ last :: repeats) =
        run d {} (a ++ last :: List.replicate repeats.length [])) := by
  have hends := Draft.endsAlone
    (sets_override_drafts d (a ++ [last]) s (mem_drafts_of_ended hs [])) halone
  have hd : d ≠ .mysql := by
    rintro rfl
    cases hends with
    | batch dialect => contradiction
    | special dialect => simp at dialect
  obtain ⟨n, hrun⟩ := run_of_ended hd hs
  have happ (more : List Text) : run d {} (a ++ last :: more) = run d ⟨n, {}, none⟩ more := by
    rw [← hrun, ← run_append, List.append_assoc, List.singleton_append]
  rw [hrun]
  cases hends with
  | batch dialect eq =>
    subst dialect
    rw [eq] at hr
    obtain ⟨hturns, hsame⟩ := run_repeats (n := n) hr
    exact ⟨iff_of_true hturns rfl, fun _ => by rw [happ, happ, hsame]⟩
  | special dialect eq =>
    have hbatch : d ≠ .tsql := by rcases dialect with rfl | rfl <;> simp
    obtain ⟨line, repeats, rfl⟩ := List.exists_cons_of_ne_nil hne
    have hline := hr line List.mem_cons_self
    rw [eq] at hline
    have hstart := Gap.role_of_special dialect (g := {}) rfl rfl hline
    refine ⟨iff_of_false (fun hout => ?_) hbatch, fun h => absurd h hbatch⟩
    rw [turns, step_start hstart] at hout
    have := hout _ List.mem_cons_self
    contradiction

/-- A delimiter that is repeated twice, with white space around it and in other letter cases. -/
theorem outside_iff_batches_twice :
    let s := (({} : Gap).fresh 1).addAll .tsql ["SELECT 1".toList, "GO".toList]
    ((run .tsql {} ["SELECT 1".toList]).step .tsql "GO".toList).ended? = some s ∧
      (s.delimiter .tsql).alone = true ∧
      (∀ line ∈ [" go ".toList, "Go".toList], (s.delimiter .tsql).Repeats line) ∧
      ∀ t ∈ (run .tsql {} (["SELECT 1".toList] ++ ["GO".toList])).turns .tsql
        [" go ".toList, "Go".toList], t.draft = none := by
  intro s
  have hs : ((run .tsql {} ["SELECT 1".toList]).step .tsql "GO".toList).ended? = some s := by
    decide +kernel
  have halone : (s.delimiter .tsql).alone = true := by decide +kernel
  have hr : ∀ line ∈ [" go ".toList, "Go".toList], (s.delimiter .tsql).Repeats line := by
    decide +kernel
  exact ⟨hs, halone, hr, (outside_iff_batches hs halone (by simp) hr).1.mpr rfl⟩

/-- A program unit's delimiter that is repeated becomes the beginning of the next statement. -/
theorem not_outside_slash :
    let lines := ["BEGIN NULL; END;".toList, "/".toList, "/".toList, "SELECT 1 FROM dual;".toList]
    Cutting.split ⟨.oracle, false⟩ lines = [⟨1, "BEGIN NULL; END;\n/".toList⟩,
        ⟨3, "/\nSELECT 1 FROM dual;".toList⟩] ∧
      ∃ s, ((run .oracle {} ["BEGIN NULL; END;".toList]).step .oracle "/".toList).ended? = some s ∧
        s.delimiter .oracle = ⟨['/'], true⟩ ∧ (s.delimiter .oracle).Repeats "/".toList ∧
        ¬ ∀ t ∈ (run .oracle {} ["BEGIN NULL; END;".toList, "/".toList]).turns .oracle
          ["/".toList], t.draft = none := by
  refine ⟨by decide +kernel, (({} : Gap).fresh 1).addAll .oracle
    ["BEGIN NULL; END;".toList, "/".toList], by decide +kernel, by decide +kernel,
    by decide +kernel, by decide +kernel⟩

/-- A line between batches that starts a batch and ends it, for the delimiter is all its code, though
not all that it holds. -/
structure HidesDelimiter (p : Progress) (line : Text) : Prop where
  starts : (p.step .tsql line).role = some .start
  ends : Dialect.tsql.delimiter.ends (Scan.ofLine .tsql .code line).plainCode = true
  closed : (Scan.ofLine .tsql .code line).mode = .code

/-- The first line of a batch ends it if the delimiter is all its code. -/
theorem terminated_fresh_iff {line : Text} (hg : g.SetByDirective .tsql) :
    ((g.fresh n).add .tsql line).terminated = true ↔
      Dialect.tsql.delimiter.ends (Scan.ofLine .tsql .code line).plainCode = true ∧
        (Scan.ofLine .tsql .code line).mode = .code := by
  have hdelimiter : ((g.fresh n).add .tsql line).delimiter .tsql = Dialect.tsql.delimiter :=
    Draft.delimiter_of_batch fun x hx => hg x hx
  rw [Draft.terminated_add_iff, hdelimiter]
  constructor
  · rintro (hbefore | ⟨hmode, -, hends⟩)
    · contradiction
    · exact ⟨hends, hmode⟩
  · rintro ⟨hends, hmode⟩
    exact .inr ⟨hmode, rfl, hends⟩

theorem HidesDelimiter.ended? {line : Text} (h : p.HidesDelimiter line)
    (hp : p.gap.SetByDirective .tsql) :
    (p.step .tsql line).ended? = some ((p.gap.fresh p.number).add .tsql line) := by
  have ht := (terminated_fresh_iff (n := p.number) hp).mpr ⟨h.ends, h.closed⟩
  have hstarts := h.starts
  have hturn := p.takesTurn .tsql line
  generalize p.step .tsql line = t at hstarts hturn ⊢
  cases hturn with
  | added => contradiction
  | started role => rw [Turn.ended?_some, if_pos ht]
  | dropped role => exact absurd (Option.some.inj hstarts) role

theorem StandsBehind.role_first {first : Text} {more : List Text} (h : StandsBehind d p a s)
    (hlines : s.lines = first :: more) : (p.run d a).gap.role d first = .start := by
  have hrole : ((p.run d a).step d first).role = some ((p.run d a).gap.role d first) :=
    role_step h.idle
  have hmem : (p.run d a).step d first ∈ (p.run d a).turns d s.lines := by
    rw [hlines]
    exact List.mem_cons_self
  rcases h.roles _ hmem with hr | hr
  · rw [hrole] at hr
    contradiction
  · exact Option.some.inj (hrole.symm.trans hr)

/-- A hidden delimiter gives a batch without text. -/
theorem mem_split_of_hides {line : Text} {b : List Text} (hline : '\n' ∉ line)
    (h : (run .tsql {} a).HidesDelimiter line) :
    ⟨a.length + 1, []⟩ ∈ Cutting.split ⟨.tsql, true⟩ (a ++ line :: b) := by
  have hended := h.ended? (setByDirective_run (Gap.setByDirective_start .tsql) a)
  have hnumber : (run .tsql {} a).number = a.length + 1 := by
    rw [number_run, Int.add_comm]
  rw [hnumber] at hended
  generalize (run .tsql {} a).gap = g at hended
  have hmem := mem_drafts_of_ended hended b
  have ht := Turn.terminated_of_ended? hended
  have ho := sets_override_drafts .tsql _ _ hmem
  obtain ⟨earlier, last, hlines, hcut⟩ := Draft.strippedText_of_alone
    (assembled_drafts .tsql _ _ hmem).1 ht ho (by rw [Draft.delimiter_of_batch ho]; rfl)
    (by simpa [Gap.fresh] using hline)
  obtain rfl : earlier = [] := by
    have := congrArg List.length hlines
    simpa [Gap.fresh] using this
  have hfinish : ((g.fresh (a.length + 1)).add .tsql line).finish .tsql true =
      ⟨a.length + 1, []⟩ := by
    rw [Draft.finish, ht, hcut]
    rfl
  rw [Cutting.split_eq, ← hfinish]
  exact List.mem_map_of_mem hmem

/-- A batch that is blank without its delimiter has no other line than the delimiter's. -/
theorem single_of_blank {first : Text} {more : List Text} (ha : s.Assembled .tsql)
    (ho : ∀ x, s.override = some x → Dialect.tsql.Sets x) (hl : ∀ line ∈ s.lines, '\n' ∉ line)
    (hlines : s.lines = first :: more) (hsolid : trim first ≠ [])
    (hblank : (s.finish .tsql true).Blank) : s.terminated = true ∧ more = [] := by
  cases ht : s.terminated with
  | false =>
    rw [Draft.finish, ht, Draft.text, hlines] at hblank
    exact absurd hblank (not_blank_joinLines hsolid more)
  | true =>
    obtain ⟨earlier, last, hlast, hcut⟩ := Draft.strippedText_of_alone ha ht ho
      (by rw [Draft.delimiter_of_batch ho]; rfl) hl
    rw [Draft.finish, ht, hcut] at hblank
    have heq := hlines.symm.trans hlast
    cases earlier with
    | nil => exact ⟨rfl, (List.cons.inj heq).2⟩
    | cons _ earlier =>
      obtain ⟨rfl, -⟩ := List.cons.inj heq
      exact absurd (blank_of_trimEnd hblank) (not_blank_joinLines hsolid earlier)

/-- Only a hidden delimiter gives a batch without text or with white space only. -/
theorem exists_hides_of_blank {lines : List Text} (hl : ∀ line ∈ lines, '\n' ∉ line)
    (hs : s ∈ drafts .tsql {} lines) (hblank : (s.finish .tsql true).Blank) :
    ∃ a line b, lines = a ++ line :: b ∧ (run .tsql {} a).HidesDelimiter line := by
  obtain ⟨ha, hsub⟩ := assembled_drafts .tsql lines s hs
  have ho := sets_override_drafts .tsql lines s hs
  have hne := (layout_drafts .tsql 1 {} lines).lines_ne_nil s hs
  obtain ⟨first, more, hlines⟩ := List.exists_cons_of_ne_nil hne
  obtain ⟨a, b, hab, hstands⟩ := exists_standsBehind hs
  have hstart := hstands.role_first hlines
  obtain ⟨ht, rfl⟩ := single_of_blank ha ho (fun line hline => hl line (hsub hline)) hlines
    (Gap.solid_of_start hstart) hblank
  have hset := setByDirective_run (p := {}) (Gap.setByDirective_start .tsql) a
  have hown := hstands.own
  rw [hlines] at hown
  obtain ⟨hends, hclosed⟩ := (terminated_fresh_iff hset).mp (hown ▸ ht)
  refine ⟨a, first, b, by rw [hab, hlines]; rfl, ⟨?_, hends, hclosed⟩⟩
  rw [role_step hstands.idle, hstart]

/-- No batch is empty or white space only exactly if no line between batches hides the delimiter.
Such a line is not taken for a separator, since it holds a comment too, and then ends the batch that
it starts. -/
theorem forall_not_blank_iff_not_hides {lines : List Text} (hl : ∀ line ∈ lines, '\n' ∉ line) :
    (∀ s ∈ Cutting.split ⟨.tsql, true⟩ lines, ¬ s.Blank) ↔
      ∀ a line b, lines = a ++ line :: b → ¬ (run .tsql {} a).HidesDelimiter line := by
  constructor
  · rintro h a line b rfl hhides
    exact h _ (mem_split_of_hides (hl line (by simp)) hhides) (by simp [Statement.Blank])
  · intro h s hs hblank
    rw [Cutting.split_eq, List.mem_map] at hs
    obtain ⟨s, hs, rfl⟩ := hs
    obtain ⟨a, line, b, heq, hhides⟩ := exists_hides_of_blank hl hs hblank
    exact h a line b heq hhides

/-- A comment beside the delimiter that ends a batch, and repeated delimiters behind it. -/
theorem forall_not_blank_iff_not_hides_repeated :
    (∀ line ∈ ["SELECT 1".toList, "GO -- one".toList, " go ".toList, "GO".toList], '\n' ∉ line) ∧
      ∀ a line b, ["SELECT 1".toList, "GO -- one".toList, " go ".toList, "GO".toList] =
        a ++ line :: b → ¬ (run .tsql {} a).HidesDelimiter line := by
  have hl : ∀ line ∈ ["SELECT 1".toList, "GO -- one".toList, " go ".toList, "GO".toList],
      '\n' ∉ line := by decide
  exact ⟨hl, (forall_not_blank_iff_not_hides hl).mp (by decide +kernel)⟩

/-- A repeated delimiter with a comment behind it is a batch of its own, without text. -/
theorem blank_repeated_comment :
    Cutting.split ⟨.tsql, true⟩ ["SELECT 1".toList, "GO".toList, "GO -- again".toList] =
        [⟨1, "SELECT 1".toList⟩, ⟨3, []⟩] ∧
      ¬ ∀ s ∈ Cutting.split ⟨.tsql, true⟩
        ["SELECT 1".toList, "GO".toList, "GO -- again".toList], ¬ s.Blank := by
  have hsplit : Cutting.split ⟨.tsql, true⟩
      ["SELECT 1".toList, "GO".toList, "GO -- again".toList] =
        [⟨1, "SELECT 1".toList⟩, ⟨3, []⟩] := by decide +kernel
  refine ⟨hsplit, ?_⟩
  rw [hsplit]
  decide

end Progress
end MigrationScript
