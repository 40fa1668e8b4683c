import MigrationScript.Proofs.Substitution
import MigrationScript.Script

/-!
The parsing of a source as a whole. A source that breaks off, and otherwise the first line with an
expression that has no value, leaves nothing but a failure; in all other cases exactly the lines of
the source, with the values put in, are cut into statements.
-/
namespace MigrationScript

namespace Placeholders

/-- An expression, as it is written on a line, for which there is no value. -/
def Lacks (filling : Option Placeholders) (line e : Text) : Prop :=
  ∃ p ∈ filling, ∃ ss last, p.Walk line ss last ∧ ∃ s ∈ ss, ¬ p.Has s.name ∧ e = p.written s.name

/-- A line, and the line with the values in the places of its expressions. -/
inductive FillsTo : Option Placeholders → Text → Text → Prop where
  | unchanged (line : Text) : FillsTo none line line
  | filled {p : Placeholders} {line last : Text} {ss : List Stretch} (walk : p.Walk line ss last)
      (has : ∀ s ∈ ss, p.Has s.name) : FillsTo (some p) line (p.filledText ss last)

/-- A list of expressions that are exactly those without a value on a line, each once and in
order. -/
def Missing (filling : Option Placeholders) (line : Text) (es : List Text) : Prop :=
  es.Pairwise Text.Before ∧ ∀ e, e ∈ es ↔ Lacks filling line e

variable {p : Placeholders} {filling : Option Placeholders} {line last e : Text}
  {lines : List Text} {ss : List Stretch}

theorem lacks_iff (h : p.Walk line ss last) :
    Lacks (some p) line e ↔ ∃ s ∈ ss, ¬ p.Has s.name ∧ e = p.written s.name := by
  constructor
  · rintro ⟨p', hp, ss', last', h', hs⟩
    obtain rfl := Option.some.inj hp
    obtain ⟨rfl, rfl⟩ := h.unique h'
    exact hs
  · exact fun hs => ⟨p, rfl, ss, last, h, hs⟩

theorem fillLines_nil : fillLines filling [] = .ok [] := by
  cases filling <;> rfl

/-- A line on which nothing is missing is filled, and the filling goes on with the next one. -/
theorem fillLines_cons_of_not_lacks (h : ∀ e, ¬ Lacks filling line e) :
    ∃ r, FillsTo filling line r ∧
      ∀ lines, fillLines filling (line :: lines) = (fillLines filling lines).map (r :: ·) := by
  cases filling with
  | none => exact ⟨line, .unchanged line, fun _ => rfl⟩
  | some p =>
    obtain ⟨ss, last, hwalk, -⟩ := exists_walk p line
    have hhas : ∀ s ∈ ss, p.Has s.name := by
      intro s hs
      by_cases hhas : p.Has s.name
      · exact hhas
      · exact absurd ((lacks_iff hwalk).mpr ⟨s, hs, hhas, rfl⟩) (h _)
    refine ⟨_, .filled hwalk hhas, fun lines => ?_⟩
    simp only [fillLines, List.mapM_cons, fill_of_has hwalk hhas]
    cases lines.mapM p.fill <;> rfl

/-- A line on which something is missing ends the filling. -/
theorem fillLines_cons_of_lacks (h : Lacks filling line e) :
    ∃ es, Missing filling line es ∧
      ∀ lines, fillLines filling (line :: lines) = .error (.unresolved es) := by
  obtain ⟨p, rfl, ss, last, hwalk, hs⟩ := h
  obtain ⟨s, hs, hno, -⟩ := hs
  refine ⟨Text.sortDistinct (p.unresolved (segmentsOf ss last)),
    ⟨Text.increasing_sortDistinct _, fun e => ?_⟩, fun lines => ?_⟩
  · rw [Text.mem_sortDistinct, mem_unresolved, lacks_iff hwalk]
  · simp only [fillLines, List.mapM_cons, fill_of_not_has hwalk ⟨s, hs, hno⟩]
    rfl

/-- Where no value is missing each line is filled, and no line is lost or won. -/
theorem fillLines_of_not_lacks (h : ∀ line ∈ lines, ∀ e, ¬ Lacks filling line e) :
    ∃ filled, fillLines filling lines = .ok filled ∧ filled.length = lines.length ∧
      ∀ pair ∈ lines.zip filled, FillsTo filling pair.1 pair.2 := by
  induction lines with
  | nil => exact ⟨[], fillLines_nil, rfl, by simp⟩
  | cons line lines ih =>
    obtain ⟨hline, hlines⟩ := List.forall_mem_cons.mp h
    obtain ⟨r, hto, hr⟩ := fillLines_cons_of_not_lacks hline
    obtain ⟨filled, hfilled, hlength, hall⟩ := ih hlines
    refine ⟨r :: filled, ?_, congrArg (· + 1) hlength, ?_⟩
    · rw [hr, hfilled]
      rfl
    · rw [List.zip_cons_cons]
      exact List.forall_mem_cons.mpr ⟨hto, hall⟩

/-- The first line for which a value is missing decides, whatever comes behind it. -/
theorem fillLines_of_lacks (h : ∃ line ∈ lines, ∃ e, Lacks filling line e) :
    ∃ before line after es, lines = before ++ line :: after ∧
      (∀ l ∈ before, ∀ e, ¬ Lacks filling l e) ∧ (∃ e, Lacks filling line e) ∧
      fillLines filling lines = .error (.unresolved es) ∧ Missing filling line es := by
  induction lines with
  | nil => simp at h
  | cons line lines ih =>
    by_cases hline : ∃ e, Lacks filling line e
    · obtain ⟨e, he⟩ := hline
      obtain ⟨es, hmissing, hes⟩ := fillLines_cons_of_lacks he
      exact ⟨[], line, lines, es, rfl, by simp, ⟨e, he⟩, hes lines, hmissing⟩
    · have hlines : ∃ line ∈ lines, ∃ e, Lacks filling line e := by
        simpa [hline] using h
      have hline := not_exists.mp hline
      obtain ⟨r, -, hr⟩ := fillLines_cons_of_not_lacks hline
      obtain ⟨before, first, after, es, rfl, hbefore, hfirst, hes, hmissing⟩ := ih hlines
      refine ⟨line :: before, first, after, es, rfl, ?_, hfirst, ?_, hmissing⟩
      · exact List.forall_mem_cons.mpr ⟨hline, hbefore⟩
      · rw [hr, hes]
        rfl

end Placeholders

namespace Script

open Placeholders

/-- What the parsing of a source comes to: a failure and nothing else, or all its statements. -/
structure Parses (c : Cutting) (filling : Option Placeholders) (source : Source) : Prop where
  /-- What was read before the source broke off is not looked at. -/
  broken : ∀ ls, source.deliver = (ls, some .broken) →
    ∃ e, parse c filling source = ⟨[], .error e⟩ ∧
      e.notice? = some ⟨.unreadable, "Cannot parse lines".toList, []⟩ ∧
      e.message = "Cannot parse lines".toList
  foreign : ∀ ls m, source.deliver = (ls, some (.foreign m)) →
    parse c filling source = ⟨[], .error (.foreign m)⟩
  /-- Whatever becomes of its lines later, the first one that lacks a value is reported. -/
  lacking : ∀ ls, source.deliver = (ls, none) →
    (∃ line ∈ ls.map Text.trimLineEnd, ∃ e, Lacks filling line e) →
    ∃ before line after es, ls.map Text.trimLineEnd = before ++ line :: after ∧
      (∀ l ∈ before, ∀ e, ¬ Lacks filling l e) ∧ (∃ e, Lacks filling line e) ∧
      Missing filling line es ∧
      parse c filling source = ⟨[], .error (.unresolved es)⟩
  complete : ∀ ls, source.deliver = (ls, none) →
    (∀ line ∈ ls.map Text.trimLineEnd, ∀ e, ¬ Lacks filling line e) →
    ∃ filled, filled.length = ls.length ∧
      (∀ pair ∈ (ls.map Text.trimLineEnd).zip filled, FillsTo filling pair.1 pair.2) ∧
      parse c filling source =
        ⟨(c.find filled).map foundEvent ++ [parsedEvent ls.length (c.find filled).length],
          .ok (c.split filled)⟩

variable {c : Cutting} {filling : Option Placeholders} {source : Source} {ls : List Text}

theorem parse_of_read_error {e : Failure} (h : source.read = .error e) :
    parse c filling source = ⟨[], .error e⟩ := by
  rw [parse, h]
  rfl

theorem read_of_deliver (h : source.deliver = (ls, none)) :
    source.read = .ok (ls.map Text.trimLineEnd) := by
  rw [Source.read, h]

theorem parse_of_fill_error {e : Failure} (h : source.deliver = (ls, none))
    (hfill : fillLines filling (ls.map Text.trimLineEnd) = .error e) :
    parse c filling source = ⟨[], .error e⟩ := by
  simp only [parse, read_of_deliver h, Except.bind, hfill]

theorem parse_of_filled {filled : List Text} (h : source.deliver = (ls, none))
    (hfill : fillLines filling (ls.map Text.trimLineEnd) = .ok filled) :
    parse c filling source =
      ⟨(c.find filled).map foundEvent ++ [parsedEvent filled.length (c.find filled).length],
        .ok (c.split filled)⟩ := by
  simp only [parse, read_of_deliver h, Except.bind, hfill]
  rfl

/-- Parsing is all or nothing, and of several problems it reports the earliest: that the source
cannot be read comes before any missing value, and of these the ones of the first line. -/
theorem parses (c : Cutting) (filling : Option Placeholders) (source : Source) :
    Parses c filling source where
  broken := by
    intro ls h
    have hread : source.read = .error .unreadable := by rw [Source.read, h]
    exact ⟨.unreadable, parse_of_read_error hread, by decide, by decide⟩
  foreign := by
    intro ls m h
    have hread : source.read = .error (.foreign m) := by rw [Source.read, h]
    exact parse_of_read_error hread
  lacking := by
    intro ls h hlacks
    obtain ⟨before, line, after, es, hls, hbefore, hline, hfill, hmissing⟩ :=
      fillLines_of_lacks hlacks
    exact ⟨before, line, after, es, hls, hbefore, hline, hmissing, parse_of_fill_error h hfill⟩
  complete := by
    intro ls h hhas
    obtain ⟨filled, hfill, hlength, hall⟩ := fillLines_of_not_lacks hhas
    rw [List.length_map] at hlength
    refine ⟨filled, hlength, hall, ?_⟩
    rw [parse_of_filled h hfill, hlength]

end Script
end MigrationScript
