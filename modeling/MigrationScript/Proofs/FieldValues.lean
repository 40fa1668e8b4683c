import MigrationScript.Log.Value

/-!
The values of fields by their keys, and what setting and merging fields does to them. Keys stay
distinct, so that a field is told by its key.
-/
namespace MigrationScript

theorem mem_of_lookup {β : Type} {key : Text} {v : β} {entries : List (Text × β)}
    (h : entries.lookup key = some v) : (key, v) ∈ entries := by
  obtain ⟨before, after, rfl, -⟩ := List.lookup_eq_some_iff.mp h
  simp

namespace Fields

/-- The value that a key has; of several the last one set. -/
def value? (key : Text) (fs : Fields) : Option Value :=
  fs.reverse.lookup key

theorem lookup_cons (key k : Text) (v : Value) (fs : Fields) :
    List.lookup key ((k, v) :: fs) = if key = k then some v else fs.lookup key := by
  rw [List.lookup_cons]
  by_cases h : key = k
  · rw [if_pos h, beq_iff_eq.mpr h]
  · rw [if_neg h, beq_eq_false_iff_ne.mpr h]

theorem lookup_put (key k : Text) (v : Value) (fs : Fields) :
    (put k v fs).lookup key = if key = k then some v else fs.lookup key := by
  induction fs with
  | nil => exact lookup_cons key k v []
  | cons f fs ih =>
    obtain ⟨l, w⟩ := f
    unfold put
    split
    next hl =>
      subst hl
      rw [lookup_cons, lookup_cons]
      by_cases h : key = l
      · rw [if_pos h, if_pos h]
      · rw [if_neg h, if_neg h, if_neg h]
    next hl =>
      rw [lookup_cons, lookup_cons, ih]
      by_cases h : key = l
      · subst h
        rw [if_pos rfl, if_neg hl, if_pos rfl]
      · rw [if_neg h, if_neg h]

theorem value?_cons (key : Text) (f : Text × Value) (fs : Fields) :
    value? key (f :: fs) = (value? key fs).or (if key = f.1 then some f.2 else none) := by
  unfold value?
  rw [List.reverse_cons, List.lookup_append, lookup_cons]
  rfl

/-- Merged fields have the values of the later fields, and those of the earlier ones otherwise. -/
theorem lookup_merge (key : Text) (fs more : Fields) :
    (merge fs more).lookup key = (value? key more).or (fs.lookup key) := by
  induction more generalizing fs with
  | nil => rfl
  | cons f more ih =>
    show (merge (put f.1 f.2 fs) more).lookup key = _
    rw [ih, lookup_put, value?_cons, Option.or_assoc]
    by_cases h : key = f.1
    · rw [if_pos h, if_pos h, Option.some_or]
    · rw [if_neg h, if_neg h, Option.none_or]

/-- No two fields have one key. -/
def Distinct (fs : Fields) : Prop :=
  (fs.map Prod.fst).Nodup

variable {key : Text} {v : Value} {fs : Fields} {f : Text × Value}

theorem mem_keys_put {k : Text} :
    k ∈ (put key v fs).map Prod.fst ↔ k = key ∨ k ∈ fs.map Prod.fst := by
  induction fs with
  | nil => simp [put]
  | cons f fs ih =>
    unfold put
    split
    next h => simp [h]
    next =>
      rw [List.map_cons, List.map_cons, List.mem_cons, List.mem_cons, ih]
      exact or_left_comm

theorem Distinct.put (h : Distinct fs) (key : Text) (v : Value) : Distinct (put key v fs) := by
  induction fs with
  | nil => simp [Distinct, Fields.put]
  | cons f fs ih =>
    obtain ⟨hf, hfs⟩ := List.nodup_cons.mp h
    unfold Fields.put
    split
    next => exact h
    next hk =>
      apply List.nodup_cons.mpr
      refine ⟨?_, ih hfs⟩
      intro hmem
      exact (mem_keys_put.mp hmem).elim hk hf

theorem Distinct.merge (h : Distinct fs) (more : Fields) : Distinct (merge fs more) := by
  induction more generalizing fs with
  | nil => exact h
  | cons f more ih => exact ih (h.put f.1 f.2)

theorem Distinct.lookup (h : Distinct fs) (hf : f ∈ fs) : fs.lookup f.1 = some f.2 := by
  induction fs with
  | nil => contradiction
  | cons e fs ih =>
    obtain ⟨he, hfs⟩ := List.nodup_cons.mp h
    rw [lookup_cons]
    rcases List.mem_cons.mp hf with rfl | hf
    · rw [if_pos rfl]
    · have hne : f.1 ≠ e.1 := fun heq => he (heq ▸ List.mem_map_of_mem hf)
      rw [if_neg hne, ih hfs hf]

theorem Distinct.value? (h : Distinct fs) (hf : f ∈ fs) : fs.value? f.1 = some f.2 := by
  have hreverse : Distinct fs.reverse := by
    unfold Distinct
    rw [List.map_reverse]
    exact List.pairwise_reverse.mpr (List.Pairwise.imp Ne.symm h)
  exact hreverse.lookup (List.mem_reverse.mpr hf)

end Fields
end MigrationScript
