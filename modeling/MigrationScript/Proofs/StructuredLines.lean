import MigrationScript.Log.Attempts
import MigrationScript.Proofs.ContextFilter
import MigrationScript.Proofs.JsonReading

/-!
Structured log lines and what is read from them. Main statement: an entry is written as one line
without control characters, and the line is read back as the fields of the entry, each with the
value given for it last.
-/
namespace MigrationScript

mutual

/-- The value holds no paths, failures or bytes, at any depth. -/
def Value.isDirect : Value → Bool
  | .path _ => false
  | .fault _ => false
  | .bytes _ => false
  | .list vs => Value.areDirect vs
  | .fields fs => Value.areDirectFields fs
  | .null => true
  | .bool _ => true
  | .int _ => true
  | .text _ => true

def Value.areDirect : List Value → Bool
  | [] => true
  | v :: vs => v.isDirect && Value.areDirect vs

def Value.areDirectFields : Fields → Bool
  | [] => true
  | (_, v) :: fs => v.isDirect && Value.areDirectFields fs

end

namespace Value

mutual

/-- What JSON has a form for is read back as it is. -/
theorem readable_of_isDirect : (v : Value) → v.isDirect = true → v.readable = v
  | .path _, h => nomatch h
  | .fault _, h => nomatch h
  | .bytes _, h => nomatch h
  | .list vs, h => congrArg Value.list (readables_of_areDirect vs h)
  | .fields fs, h => congrArg Value.fields (readableFields_of_areDirect fs h)
  | .null, _ => rfl
  | .bool _, _ => rfl
  | .int _, _ => rfl
  | .text _, _ => rfl

theorem readables_of_areDirect : (vs : List Value) → areDirect vs = true → readables vs = vs
  | [], _ => rfl
  | v :: vs, h => by
    obtain ⟨hv, hvs⟩ := Bool.and_eq_true_iff.mp h
    rw [readables, readable_of_isDirect v hv, readables_of_areDirect vs hvs]

theorem readableFields_of_areDirect :
    (fs : Fields) → areDirectFields fs = true → readableFields fs = fs
  | [], _ => rfl
  | (key, v) :: fs, h => by
    obtain ⟨hv, hfs⟩ := Bool.and_eq_true_iff.mp h
    rw [readableFields, readable_of_isDirect v hv, readableFields_of_areDirect fs hfs]

end

theorem keys_readableFields (fs : Fields) :
    (readableFields fs).map Prod.fst = fs.map Prod.fst := by
  induction fs with
  | nil => rfl
  | cons f fs ih => rw [readableFields, List.map_cons, List.map_cons, ih]

theorem lookup_readableFields (key : Text) (fs : Fields) :
    (readableFields fs).lookup key = (fs.lookup key).map readable := by
  induction fs with
  | nil => rfl
  | cons f fs ih =>
    rw [readableFields, Fields.lookup_cons, Fields.lookup_cons, ih]
    split <;> rfl

end Value

namespace Fields

theorem keys_put (key : Text) (v : Value) (fs : Fields) : (put key v fs).map Prod.fst =
    if key ∈ fs.map Prod.fst then fs.map Prod.fst else fs.map Prod.fst ++ [key] := by
  induction fs with
  | nil => rfl
  | cons f fs ih =>
    obtain ⟨k, w⟩ := f
    unfold put
    split
    next h => simp [h]
    next h =>
      rw [List.map_cons, ih]
      by_cases hk : key ∈ fs.map Prod.fst
      · simp [hk]
      · simp [hk, Ne.symm h]

private theorem removeAll_concat (l removed : List Text) (t : Text) :
    l.removeAll (removed ++ [t]) = (l.removeAll removed).filter fun u => !u == t := by
  rw [List.removeAll, List.removeAll, List.filter_filter]
  apply List.filter_congr
  intro u _
  rw [Bool.eq_iff_iff]
  simp [and_comm]

/-- Keys that are there keep their places, and new ones follow in the order in which they first
occur. -/
theorem keys_merge (fs more : Fields) : (merge fs more).map Prod.fst =
    fs.map Prod.fst ++ ((more.map Prod.fst).removeAll (fs.map Prod.fst)).eraseDups := by
  induction more generalizing fs with
  | nil => simp [merge]
  | cons f more ih =>
    show (merge (put f.1 f.2 fs) more).map Prod.fst = _
    rw [ih, keys_put, List.map_cons, List.cons_removeAll]
    by_cases hk : f.1 ∈ fs.map Prod.fst
    · simp [hk]
    · have hnew : (fs.map Prod.fst).contains f.1 = false := by simpa using hk
      rw [if_neg hk, if_pos hnew, removeAll_concat, List.eraseDups_cons, List.append_assoc]
      rfl

theorem merge_append (fs a b : Fields) : merge fs (a ++ b) = merge (merge fs a) b :=
  List.foldl_append

end Fields

namespace Entry

/-- All that the fields of an entry are taken from, in its order. -/
def sources (e : Entry) : Fields :=
  [("timestamp".toList, .text e.time), ("level".toList, .text (Level.text e.level)),
    ("logger".toList, .text e.logger), ("event".toList, .text e.event)] ++ e.context ++ e.fields ++
    (e.fault.map fun t => ("exception".toList, Value.text t)).toList

theorem members_eq_merge (e : Entry) : e.members = Fields.merge [] e.sources := by
  rw [sources, Fields.merge_append, Fields.merge_append, Fields.merge_append, members]
  cases e.fault with
  | none => rfl
  | some t => rfl

/-- How the structured line of an entry is read. -/
structure ReadsBack (e : Entry) : Prop where
  /-- The text of the fields is the line, whichever attempt gives it. -/
  written : Json.encode (.fields e.members) = some (e.write .structured)
  visible : (e.write .structured).NoControls
  single : ∀ h : Handler, h.style = .structured → h.lines e = [e.write .structured]
  /-- Every key stands once, where it first occurs, and has the value that was given last. -/
  decoded : ∃ ms, Json.read? (e.write .structured) = some (.fields ms) ∧
    ms.map Prod.fst = (e.sources.map Prod.fst).eraseDups ∧
    ∀ key v, e.sources.value? key = some v → ms.lookup key = some v.readable ∧
      (v.isDirect = true → ms.lookup key = some v) ∧
      ∀ b, v = .bytes b → ∃ t, ms.lookup key = some (.text t) ∧ Base64.decode? t = some b

/-- Whatever an entry holds, its line is one line and says what it holds. -/
theorem reads_back (e : Entry) : e.ReadsBack where
  written := Json.encode_eq _
  visible := Json.noControls_ofValue _
  single h hs := by
    rw [Handler.lines, hs]
    exact Text.pieces_line (Json.noControls_ofValue _).newline_notMem
  decoded := by
    refine ⟨Value.readableFields e.members, Json.read?_ofValue _, ?_, ?_⟩
    · rw [Value.keys_readableFields, members_eq_merge, Fields.keys_merge, List.map_nil,
        List.removeAll_nil, List.nil_append]
    · intro key v hv
      have hkey : (Value.readableFields e.members).lookup key = some v.readable := by
        rw [Value.lookup_readableFields, members_eq_merge, Fields.lookup_merge, hv]
        rfl
      refine ⟨hkey, fun hdirect => ?_, ?_⟩
      · rw [hkey, Value.readable_of_isDirect v hdirect]
      · rintro b rfl
        exact ⟨Base64.encode b, hkey, Base64.decode?_encode b⟩

end Entry
end MigrationScript
