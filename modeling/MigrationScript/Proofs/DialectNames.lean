import MigrationScript.Proofs.Lines
import MigrationScript.Proofs.LowerCase
import MigrationScript.Settings

/-!
Names of dialects, resolved. A resolved name is resolved to itself, unless it is empty; so the rules
that settings lead to are those of the name that the settings hold.
-/
namespace MigrationScript

namespace Dialect

/-- The name in place of another name of the same dialect. -/
def unaliased (plain : Text) : Text :=
  ((aliases.lookup plain).map name).getD plain

theorem unaliased_name (d : Dialect) : unaliased d.name = d.name := by
  cases d <;> decide

/-- The names of dialects with rules of their own are written in lower case. -/
theorem plain_name (d : Dialect) : Text.trim (Text.lower d.name) = d.name := by
  cases d <;> decide

theorem unaliased_unaliased (t : Text) : unaliased (unaliased t) = unaliased t := by
  cases h : aliases.lookup t with
  | none => simp [unaliased, h]
  | some d => simpa [unaliased, h] using unaliased_name d

theorem plain_unaliased {t : Text} (ht : Text.trim (Text.lower t) = t) :
    Text.trim (Text.lower (unaliased t)) = unaliased t := by
  cases h : aliases.lookup t with
  | none => simpa [unaliased, h] using ht
  | some d => simpa [unaliased, h] using plain_name d

theorem plain_plain (t : Text) :
    Text.trim (Text.lower (Text.trim (Text.lower t))) = Text.trim (Text.lower t) := by
  have hlower : Text.lower (Text.trim (Text.lower t)) = Text.trim (Text.lower t) :=
    Text.lower_of_lowered fun e he => Text.lowerChar_of_mem_lower (Text.trim_subset _ he)
  rw [hlower, Text.trim_trim]

variable {r : Registry}

/-- A name that is not empty is resolved to the generic one or to a known one. -/
theorem resolve_some_iff {asked found : Text} (h : asked ≠ []) :
    resolve r (some asked) = .ok found ↔ unaliased (Text.trim (Text.lower asked)) = found ∧
      (found = generic.name ∨ r.isKnown found = true) := by
  have hempty : asked.isEmpty = false := by simpa using h
  simp only [resolve, hempty, Bool.false_eq_true, if_false, ← unaliased.eq_1]
  split
  next hknown =>
    simp only [Except.ok.injEq]
    refine ⟨fun hf => ⟨hf, ?_⟩, And.left⟩
    rw [← hf]
    simpa using hknown
  next hunknown =>
    refine ⟨fun hf => by contradiction, ?_⟩
    rintro ⟨rfl, hknown⟩
    exact absurd (by simpa using hknown) hunknown

/-- A resolved name is resolved to itself; the empty one, that is known as well, to the generic
name. -/
theorem resolve_resolved {asked : Option Text} {found : Text} (h : resolve r asked = .ok found) :
    resolve r (some found) = .ok (if found = [] then generic.name else found) := by
  by_cases hne : found = []
  · rw [if_pos hne, hne]
    rfl
  rw [if_neg hne, resolve_some_iff hne]
  have hgeneric : resolve r (some generic.name) = .ok generic.name := by
    rw [resolve_some_iff (by decide), plain_name, unaliased_name]
    exact ⟨rfl, .inl rfl⟩
  cases asked with
  | none =>
    obtain rfl : generic.name = found := Except.ok.inj h
    exact (resolve_some_iff hne).mp hgeneric
  | some a =>
    by_cases ha : a = []
    · obtain rfl : generic.name = found := by simpa [resolve, ha] using h
      exact (resolve_some_iff hne).mp hgeneric
    · obtain ⟨rfl, hknown⟩ := (resolve_some_iff ha).mp h
      refine ⟨?_, hknown⟩
      rw [plain_unaliased (plain_plain a), unaliased_unaliased]

end Dialect

namespace Settings

variable {r : Dialect.Registry} {w : Wishes} {s : Settings}

theorem dialect_of_make (h : make r w = .ok s) : Dialect.resolve r w.dialect = .ok s.dialect := by
  cases hp : Placeholders.make w.values w.opening w.closing with
  | error e => simp [make, hp, bind, Except.bind] at h
  | ok p =>
    cases hd : Dialect.resolve r w.dialect with
    | error e => simp [make, hp, hd, bind, Except.bind] at h
    | ok name =>
      simp only [make, hp, hd, bind, Except.bind, pure, Except.pure, Except.ok.injEq] at h
      rw [← h]

/-- The name that the dialect of some settings leads to when it is looked up once more. -/
def usedName (s : Settings) : Text :=
  if s.dialect = [] then Dialect.generic.name else s.dialect

/-- The dialect that settings hold can be looked up. -/
theorem resolve_dialect (h : make r w = .ok s) :
    Dialect.resolve r (some s.dialect) = .ok s.usedName :=
  Dialect.resolve_resolved (dialect_of_make h)

/-- The rules are those of the name that the settings hold. -/
theorem ofName?_usedName (s : Settings) :
    (Dialect.ofName? s.usedName).getD .generic = (Dialect.ofName? s.dialect).getD .generic := by
  unfold usedName
  split
  next hempty =>
    rw [hempty]
    rfl
  next => rfl

end Settings
end MigrationScript
