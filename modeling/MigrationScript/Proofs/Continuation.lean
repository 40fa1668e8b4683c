import MigrationScript.Proofs.Lines
import MigrationScript.Proofs.Numbering

/-!
Scripts that go on. When more lines come, the statements that have ended stay as they are, and one
that was left open grows; behind lines that leave nothing open, the lines that come are split as if
they stood alone. The main statement holds these three facts.
-/
namespace MigrationScript

namespace Progress

variable {d : Dialect} {p : Progress}

theorem terminated_endedDrafts (p : Progress) (lines : List Text) :
    ∀ s ∈ p.endedDrafts d lines, s.terminated = true := by
  intro s hs
  obtain ⟨t, -, ht⟩ := List.mem_filterMap.mp hs
  exact Turn.terminated_of_ended? ht

/-- The statement in progress, if any, has not ended. -/
def Pending (p : Progress) : Prop :=
  ∀ s, p.draft = some s → s.terminated = false

theorem Pending.keep (p : Progress) (s : Draft) : (p.keep s).Pending := by
  intro t ht
  cases hs : s.terminated with
  | true => simp [Progress.keep, hs] at ht
  | false =>
    obtain rfl : s = t := by simpa [Progress.keep, hs] using ht
    exact hs

theorem Pending.step (p : Progress) (line : Text) : (p.step d line).after.Pending := by
  have h := p.takesTurn d line
  generalize p.step d line = t at h ⊢
  cases h with
  | added => exact .keep _ _
  | started role => exact .keep _ _
  | dropped role =>
    intro s hs
    contradiction

theorem Pending.run (hp : p.Pending) (lines : List Text) : (p.run d lines).Pending := by
  induction lines generalizing p with
  | nil => exact hp
  | cons line lines ih => exact ih (.step p line)

/-- A statement in progress takes in the lines that come, all of them or those up to its end. -/
theorem drafts_of_open {n : Int} {g : Gap} {s : Draft} (hs : s.terminated = false)
    (lines : List Text) :
    ∃ body rest, drafts d ⟨n, g, some s⟩ lines = s.addAll d body :: rest := by
  rcases exists_endsAt (d := d) hs lines with ⟨body, more, rfl, he⟩ | ho
  · obtain ⟨hrun, hended⟩ := run_ended (n := n) (g := g) he
    exact ⟨body, _, by rw [drafts_append, hended, List.singleton_append]⟩
  · obtain ⟨hrun, hended⟩ := run_open (n := n) (g := g) ho
    exact ⟨lines, [], by rw [drafts, hrun, hended]; rfl⟩

end Progress

/-- What becomes of the statements of the lines `a` when the lines `b` follow. -/
structure GoesOn (c : Cutting) (a b : List Text) : Prop where
  /-- Ended statements stay. -/
  ended : ((c.find a).filter Found.terminated).map Found.statement <+: c.split (a ++ b)
  /-- A statement that was left open gets more text. -/
  leftOpen : c.strip = false → ∀ (k : Nat) (f : Found), (c.find a)[k]? = some f →
    f.terminated = false → ∃ s : Statement, (c.split (a ++ b))[k]? = some s ∧
      s.line = f.statement.line ∧ f.statement.sql <+: s.sql
  /-- Where no statement and no comment is open and no directive is in force, `b` is like a script
  of its own. -/
  afresh : (Progress.run c.dialect {} a).draft = none →
    (Progress.run c.dialect {} a).gap.inComment = false →
    (Progress.run c.dialect {} a).gap.delimiter = none →
    c.split (a ++ b) = c.split a ++ (c.split b).map (Statement.shift a.length)

namespace Cutting

open Progress

variable (c : Cutting) (a b : List Text)

theorem find_eq : c.find a = (drafts c.dialect {} a).map c.finish :=
  c.findFrom_eq {} a

theorem split_append : c.split (a ++ b) =
    (endedDrafts c.dialect {} a).map (Draft.finish c.dialect c.strip) ++
      ((run c.dialect {} a).drafts c.dialect b).map (Draft.finish c.dialect c.strip) := by
  rw [split_eq, drafts_append, List.map_append]

/-- Behind lines that leave no statement open come the statements of the other lines. -/
theorem split_append_of_idle (h : (run c.dialect {} a).draft = none) : c.split (a ++ b) =
    c.split a ++ ((run c.dialect {} a).drafts c.dialect b).map (Draft.finish c.dialect c.strip) := by
  have ha : drafts c.dialect {} a = endedDrafts c.dialect {} a := by
    rw [drafts, h, Option.toList_none, List.append_nil]
  rw [split_append, split_eq c a, ha]

theorem filter_find : (c.find a).filter Found.terminated =
    (endedDrafts c.dialect {} a).map c.finish := by
  have hterm : Found.terminated ∘ c.finish = Draft.terminated := rfl
  have hended : (endedDrafts c.dialect {} a).filter Draft.terminated =
      endedDrafts c.dialect {} a :=
    List.filter_eq_self.mpr (terminated_endedDrafts {} a)
  have hopen : (run c.dialect {} a).draft.toList.filter Draft.terminated = [] := by
    have hp : (run c.dialect {} a).Pending := Pending.run (by simp [Pending]) a
    rw [List.filter_eq_nil_iff]
    intro s hs
    rw [hp s (Option.mem_toList.mp hs)]
    exact Bool.false_ne_true
  rw [find_eq, drafts, List.filter_map, hterm, List.filter_append, hended, hopen, List.append_nil]

/-- Every statement but the last was ended by a delimiter. -/
theorem terminated_of_mem_dropLast {f : Found} (hf : f ∈ (c.find a).dropLast) :
    f.terminated = true := by
  have hended : ∀ f ∈ (endedDrafts c.dialect {} a).map c.finish, f.terminated = true := by
    intro f hf
    obtain ⟨s, hs, rfl⟩ := List.mem_map.mp hf
    exact terminated_endedDrafts {} a s hs
  rw [find_eq, drafts, List.map_append] at hf
  cases hd : (run c.dialect {} a).draft with
  | none =>
    rw [hd, Option.toList_none, List.map_nil, List.append_nil] at hf
    exact hended f (List.dropLast_subset _ hf)
  | some s =>
    rw [hd, Option.toList_some, List.map_singleton, List.dropLast_concat] at hf
    exact hended f hf

/-- What is left open stands last and is in progress behind the lines. -/
theorem open_of_find {k : Nat} {f : Found} (hk : (c.find a)[k]? = some f)
    (hf : f.terminated = false) :
    k = (endedDrafts c.dialect {} a).length ∧
      ∃ s, (run c.dialect {} a).draft = some s ∧ f = c.finish s ∧ s.terminated = false := by
  rw [find_eq, List.getElem?_map, Option.map_eq_some_iff] at hk
  obtain ⟨s, hs, rfl⟩ := hk
  by_cases hlt : k < (endedDrafts c.dialect {} a).length
  · rw [drafts, List.getElem?_append_left hlt] at hs
    have hterm := terminated_endedDrafts {} a s (List.mem_of_getElem? hs)
    rw [show s.terminated = false from hf] at hterm
    contradiction
  · rw [drafts, List.getElem?_append_right (Nat.le_of_not_lt hlt)] at hs
    cases hd : (run c.dialect {} a).draft with
    | none => simp [hd] at hs
    | some t =>
      rw [hd, Option.toList_some, List.getElem?_singleton] at hs
      split at hs
      next hz =>
        obtain rfl := Option.some.inj hs
        exact ⟨by omega, t, rfl, rfl, hf⟩
      next => contradiction

/-- The statements of a script go on from those of its beginning. -/
theorem goesOn : GoesOn c a b where
  ended := by
    rw [filter_find, split_append, List.map_map]
    exact List.prefix_append _ _
  leftOpen := by
    intro hstrip k f hk hf
    obtain ⟨rfl, s, hs, rfl, hopen⟩ := open_of_find c a hk hf
    obtain ⟨body, rest, hrest⟩ := drafts_of_open (d := c.dialect)
      (n := (run c.dialect {} a).number) (g := (run c.dialect {} a).gap) hopen b
    rw [← hs] at hrest
    refine ⟨(s.addAll c.dialect body).finish c.dialect c.strip, ?_, ?_, ?_⟩
    · rw [split_append, hrest]
      simp
    · simp [finish, Draft.finish]
    · simpa [finish, Draft.finish, hstrip, Draft.text] using Text.joinLines_prefix s.lines body
  afresh := by
    intro hdraft hcomment hdelimiter
    rw [split_append_of_idle c a b hdraft, run_afresh hdraft hcomment hdelimiter, drafts_shift,
      split_eq c b, List.map_map, List.map_map]
    simp only [Function.comp_def, Draft.finish_shift]

/-- A finished function body, and a comment behind it that is closed. -/
theorem goesOn_closed_comment :
    (run .postgres {} ["DO $$ ;".toList, "$$;".toList, "/* a".toList, "*/".toList]).draft = none ∧
      (run .postgres {} ["DO $$ ;".toList, "$$;".toList, "/* a".toList,
        "*/".toList]).gap.inComment = false ∧
      (run .postgres {} ["DO $$ ;".toList, "$$;".toList, "/* a".toList,
        "*/".toList]).gap.delimiter = none ∧
      split ⟨.postgres, false⟩ (["DO $$ ;".toList, "$$;".toList, "/* a".toList, "*/".toList] ++
        ["-- b".toList, "SELECT 1".toList]) =
      [⟨1, "DO $$ ;\n$$;".toList⟩, ⟨6, "SELECT 1".toList⟩] := by
  refine ⟨by decide +kernel, by decide +kernel, by decide +kernel, ?_⟩
  rw [(goesOn ⟨.postgres, false⟩ _ _).afresh (by decide +kernel) (by decide +kernel)
    (by decide +kernel)]
  decide +kernel

end Cutting
end MigrationScript
