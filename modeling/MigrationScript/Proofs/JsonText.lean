import MigrationScript.Log.Value

/-!
The JSON text of values holds no control characters, whatever the values hold; so it is always a
single line.
-/
namespace MigrationScript

/-- The text has no control characters below the blank. -/
def Text.NoControls (t : Text) : Prop :=
  ∀ c ∈ t, 0x20 ≤ c.toNat

instance (t : Text) : Decidable t.NoControls :=
  inferInstanceAs (Decidable (∀ c ∈ t, 0x20 ≤ c.toNat))

namespace Text

variable {s t : Text} {c : Char}

theorem noControls_nil : NoControls [] :=
  fun _ h => nomatch h

theorem noControls_cons : NoControls (c :: t) ↔ 0x20 ≤ c.toNat ∧ NoControls t :=
  List.forall_mem_cons

theorem noControls_append : NoControls (s ++ t) ↔ NoControls s ∧ NoControls t :=
  List.forall_mem_append

theorem NoControls.newline_notMem (h : NoControls t) : '\n' ∉ t := by
  intro hn
  have := h '\n' hn
  contradiction

theorem noControls_intercalate {items : List Text} (hs : NoControls s)
    (h : ∀ t ∈ items, NoControls t) : NoControls (List.intercalate s items) := by
  induction items with
  | nil => exact noControls_nil
  | cons t items ih =>
    obtain ⟨ht, hitems⟩ := List.forall_mem_cons.mp h
    cases items with
    | nil => rwa [List.intercalate_singleton]
    | cons u items =>
      rw [List.intercalate_cons_cons, noControls_append, noControls_append]
      exact ⟨⟨ht, hs⟩, ih hitems⟩

private theorem digitChar_visible : ∀ n < 16, 0x20 ≤ (Nat.digitChar n).toNat := by
  decide

theorem noControls_hex (width n : Nat) : NoControls (hex width n) := by
  induction width generalizing n with
  | zero => exact noControls_nil
  | succ width ih =>
    rw [hex, noControls_append, noControls_cons]
    exact ⟨ih _, digitChar_visible _ (Nat.mod_lt n (by decide)), noControls_nil⟩

theorem noControls_ofNat (n : Nat) : NoControls (ofNat n) := by
  intro c hc
  have hdigit := Nat.isDigit_of_mem_toDigits (by decide) (by decide) hc
  simp only [Char.isDigit, Bool.and_eq_true, decide_eq_true_eq] at hdigit
  exact Nat.le_trans (by decide) (UInt32.le_iff_toNat_le.mp hdigit.1)

theorem noControls_ofInt (n : Int) : NoControls (ofInt n) := by
  cases n with
  | ofNat n => exact noControls_ofNat n
  | negSucc n => exact noControls_cons.mpr ⟨by decide, noControls_ofNat (n + 1)⟩

end Text

open Text

namespace Json

theorem noControls_escape (c : Char) : NoControls (escape c) := by
  unfold escape
  -- the marks and the controls that have a letter of their own
  iterate 7 (split; · decide)
  split
  next => exact noControls_append.mpr ⟨by decide, noControls_hex 4 c.toNat⟩
  next h => exact noControls_cons.mpr ⟨by omega, noControls_nil⟩

theorem noControls_ofText (t : Text) : NoControls (ofText t) := by
  rw [ofText, List.cons_append, noControls_cons, noControls_append]
  refine ⟨by decide, ?_, by decide⟩
  intro c hc
  obtain ⟨x, -, hx⟩ := List.mem_flatMap.mp hc
  exact noControls_escape x c hx

theorem noControls_enclose {left right : Char} {items : List Text} (hl : 0x20 ≤ left.toNat)
    (hr : 0x20 ≤ right.toNat) (h : ∀ t ∈ items, NoControls t) :
    NoControls (enclose left right items) := by
  rw [enclose, List.cons_append, noControls_cons, noControls_append]
  exact ⟨hl, noControls_intercalate (by decide) h, noControls_cons.mpr ⟨hr, noControls_nil⟩⟩

mutual

theorem noControls_ofValue : (v : Value) → NoControls (ofValue v)
  | .null => by decide
  | .bool b => by cases b <;> decide
  | .int n => noControls_ofInt n
  | .text t => noControls_ofText t
  | .list vs => noControls_enclose (by decide) (by decide) (noControls_ofValues vs)
  | .fields fs => noControls_enclose (by decide) (by decide) (noControls_ofMembers fs)
  | .path t => noControls_ofText t
  | .fault t => noControls_ofText t
  | .bytes b => noControls_ofText (Base64.encode b)

theorem noControls_ofValues : (vs : List Value) → ∀ t ∈ ofValues vs, NoControls t
  | [] => fun _ h => nomatch h
  | v :: vs => List.forall_mem_cons.mpr ⟨noControls_ofValue v, noControls_ofValues vs⟩

theorem noControls_ofMembers : (fs : List (Text × Value)) → ∀ t ∈ ofMembers fs, NoControls t
  | [] => fun _ h => nomatch h
  | (key, v) :: fs => by
    refine List.forall_mem_cons.mpr ⟨?_, noControls_ofMembers fs⟩
    rw [noControls_append, noControls_cons]
    exact ⟨noControls_ofText key, by decide, noControls_ofValue v⟩

end

end Json
end MigrationScript
