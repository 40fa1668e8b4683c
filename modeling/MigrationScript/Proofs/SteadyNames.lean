import MigrationScript.Proofs.DialectNames
import MigrationScript.Proofs.Words
import MigrationScript.Script

/-!
Names of dialects that are resolved once more. Main statement: a resolved name stays what it is,
and settings are logged and used under the name that they hold, exactly if the name that was asked
for is not white space alone.
-/
namespace MigrationScript

private theorem isBlank_toLower_ascii : ∀ n < 0x80,
    isBlank (Char.ofNat n).toLower = isBlank (Char.ofNat n) := by
  decide

/-- The runs leave out white space, and so do their forms. -/
private theorem lower_not_blank : ∀ r ∈ CaseRun.lower, 0x20 < r.target ∧ ∀ n ∈ wideBlanks,
    (n < r.first ∨ r.last < n) ∧ (n < r.target ∨ r.target + (r.last - r.first) < n) := by
  decide +kernel

private theorem lowerLong_not_blank : ∀ e ∈ CaseRun.lowerLong,
    e.1 ∉ wideBlanks ∧ (e.2.map Char.ofNat).all isBlank = false := by
  decide +kernel

private theorem toNat_of_isBlank {c : Char} (h : isBlank c = true) :
    0 < c.toNat ∧ (c.toNat < 0x80 → c.toNat ≤ 0x20) := by
  simp only [isBlank, Bool.or_eq_true, Bool.and_eq_true, decide_eq_true_eq, beq_iff_eq] at h
  omega

/-- A run maps no white space, and to none. -/
private theorem isBlank_of_form? {r : CaseRun} {c : Char} {n : Nat} (hr : r ∈ CaseRun.lower)
    (hc : ¬ c.toNat < 0x80) (h : r.form? c.toNat = some n) :
    isBlank c = false ∧ isBlank (Char.ofNat n) = false := by
  obtain ⟨htarget, hwide⟩ := lower_not_blank r hr
  unfold CaseRun.form? at h
  split at h
  next hrun =>
    have hn := Option.some.inj h
    refine ⟨?_, ?_⟩
    · rw [← Bool.not_eq_true]
      intro hblank
      have := hwide _ (mem_wideBlanks hblank hc)
      omega
    · rw [← Bool.not_eq_true]
      intro hblank
      obtain ⟨hpos, hlow⟩ := toNat_of_isBlank hblank
      have hvalue := eq_of_ofNat (n := n) rfl hpos
      by_cases hascii : (Char.ofNat n).toNat < 0x80
      · have := hlow hascii
        omega
      · have := hwide _ (mem_wideBlanks hblank hascii)
        omega
  next => contradiction

/-- White space has no other lower-case form, and nothing else has white space for its form. -/
theorem all_isBlank_lowerChar (c : Char) : (lowerChar c).all isBlank = isBlank c := by
  by_cases hc : c.toNat < 0x80
  · have h := isBlank_toLower_ascii c.toNat hc
    rw [Char.ofNat_toNat] at h
    rw [lowerChar, if_pos hc]
    simpa using h
  rw [lowerChar, if_neg hc, CaseRun.form]
  split
  next n hn =>
    obtain ⟨r, hr, hform⟩ := List.exists_of_findSome?_eq_some hn
    obtain ⟨hsource, htarget⟩ := isBlank_of_form? hr hc hform
    rw [hsource, List.all_cons, htarget, Bool.false_and]
  next =>
    split
    next e he =>
      obtain ⟨hsource, hforms⟩ := lowerLong_not_blank e (List.mem_of_find?_eq_some he)
      have hkey : e.1 = c.toNat := by simpa using List.find?_some he
      rw [hforms]
      symm
      rw [← Bool.not_eq_true]
      intro h
      exact hsource (hkey ▸ mem_wideBlanks h hc)
    next => simp

namespace Text

variable {t : Text}

private theorem all_isBlank_lowerAfter (after : Bool) (t : Text) :
    (lowerAfter after t).all isBlank = t.all isBlank := by
  induction t generalizing after with
  | nil => rfl
  | cons c t ih =>
    rw [lowerAfter, List.all_append, ih, List.all_cons]
    split
    next hsigma =>
      have hc : c = 'Σ' := by simp at hsigma; exact hsigma.1.1
      rw [hc]
      rfl
    next => rw [all_isBlank_lowerChar]

theorem trim_eq_nil_iff : trim t = [] ↔ t.all isBlank = true := by
  have hall : t.all isBlank = (trimStart t).all isBlank :=
    calc t.all isBlank
      _ = (t.takeWhile isBlank ++ t.dropWhile isBlank).all isBlank := by
        rw [List.takeWhile_append_dropWhile]
      _ = (trimStart t).all isBlank := by
        rw [List.all_append, List.all_takeWhile, Bool.true_and, trimStart]
  rw [trim, trimEnd, dropEnd_eq_nil_iff, hall, List.all_eq_true]

/-- Nothing is left of a name in lower case and trimmed if it was white space. -/
theorem trim_lower_eq_nil_iff : trim (lower t) = [] ↔ t.all isBlank = true := by
  rw [trim_eq_nil_iff, lower, all_isBlank_lowerAfter]

end Text

namespace Dialect

variable {r : Registry} {asked : Option Text} {found t : Text}

/-- A name is asked for that has characters, but only white space. -/
def IsBlankName (asked : Option Text) : Prop :=
  ∃ t, asked = some t ∧ t ≠ [] ∧ t.all isBlank = true

theorem unaliased_eq_nil_iff : unaliased t = [] ↔ t = [] := by
  cases h : aliases.lookup t with
  | none => simp [unaliased, h]
  | some d =>
    have hnone : aliases.lookup [] = none := by decide
    have ht : t ≠ [] := by
      rintro rfl
      rw [hnone] at h
      contradiction
    have hname : d.name ≠ [] := by cases d <;> decide
    simpa [unaliased, h, ht] using hname

/-- Only such a name is resolved to the empty one. -/
theorem resolved_eq_nil_iff (h : resolve r asked = .ok found) : found = [] ↔ IsBlankName asked := by
  have hgeneric : generic.name ≠ [] := by decide
  cases asked with
  | none =>
    obtain rfl : generic.name = found := Except.ok.inj h
    exact iff_of_false hgeneric fun ⟨t, ht, _⟩ => nomatch ht
  | some a =>
    by_cases ha : a = []
    · obtain rfl : generic.name = found := by simpa [resolve, ha] using h
      refine iff_of_false hgeneric ?_
      rintro ⟨t, ht, hne, -⟩
      exact hne ((Option.some.inj ht).symm.trans ha)
    · obtain ⟨rfl, -⟩ := (resolve_some_iff ha).mp h
      rw [unaliased_eq_nil_iff, Text.trim_lower_eq_nil_iff]
      simp [IsBlankName, ha]

/-- The name that was found goes on standing for itself, the name that was asked for stands for it
in its plain form, too, and settings that are made with that name use and report it. -/
structure Steady (r : Registry) (asked : Option Text) (found : Text) : Prop where
  again : resolve r (some found) = .ok found
  plain : ∀ t ∈ asked, resolve r (some (Text.trim (Text.lower t))) = .ok found
  settings : ∀ (w : Wishes) (p : Placeholders), w.dialect = asked →
    Placeholders.make w.values w.opening w.closing = .ok p →
    ∃ s, Settings.make r w = .ok s ∧ s.dialect = found ∧
      Script.findRules r (some s.dialect) =
        ⟨if (ofName? found).isNone then [Script.fallbackEvent found] else [],
          .ok ((ofName? found).getD .generic)⟩

theorem resolve_plain (h : resolve r asked = .ok found) (hfound : found ≠ []) (ht : t ∈ asked) :
    resolve r (some (Text.trim (Text.lower t))) = .ok found := by
  obtain rfl : asked = some t := ht
  by_cases hempty : t = []
  · subst hempty
    exact h
  · obtain ⟨rfl, hknown⟩ := (resolve_some_iff hempty).mp h
    have hplain : Text.trim (Text.lower t) ≠ [] := mt unaliased_eq_nil_iff.mpr hfound
    rw [resolve_some_iff hplain, plain_plain]
    exact ⟨rfl, hknown⟩

/-- What is resolved stays the same exactly if the name that was asked for is not white space
alone, whatever names are known. -/
theorem steady_iff (h : resolve r asked = .ok found) :
    Steady r asked found ↔ ¬ IsBlankName asked := by
  rw [← resolved_eq_nil_iff h]
  constructor
  · rintro hsteady rfl
    have hempty : generic.name = [] := Except.ok.inj hsteady.again
    exact absurd hempty (by decide)
  · intro hfound
    have hagain : resolve r (some found) = .ok found := by
      rw [resolve_resolved h, if_neg hfound]
    refine ⟨hagain, fun t ht => resolve_plain h hfound ht, ?_⟩
    intro w p hw hp
    refine ⟨⟨found, p, w.replacing, w.strip, w.encoding⟩, ?_, rfl, ?_⟩
    · rw [Settings.make, hp, hw, h]
      rfl
    · rw [Script.findRules, Rules.find, hagain]
      rfl

/-- Another name of a dialect, with capitals and white space. -/
theorem steady_alias : resolve .standard (some " MSSQL ".toList) = .ok "tsql".toList ∧
    Steady .standard (some " MSSQL ".toList) "tsql".toList := by
  have h : resolve .standard (some " MSSQL ".toList) = .ok "tsql".toList :=
    (resolve_some_iff (by decide)).mpr ⟨by decide, .inr (by decide)⟩
  refine ⟨h, (steady_iff h).mpr ?_⟩
  rintro ⟨t, ht, -, hblank⟩
  obtain rfl := Option.some.inj ht
  exact absurd hblank (by decide)

/-- A blank is resolved to the empty name, which then stands for the generic one. -/
theorem not_steady_blank : resolve .standard (some [' ']) = .ok [] ∧
    resolve .standard (some []) = .ok generic.name ∧ ¬ Steady .standard (some [' ']) [] := by
  refine ⟨(resolve_some_iff (by decide)).mpr ⟨by decide, .inr (by decide)⟩, rfl, fun h => ?_⟩
  have hempty : generic.name = [] := Except.ok.inj h.again
  exact absurd hempty (by decide)

end Dialect
end MigrationScript
