import MigrationScript.Log.Value

/-!
Writing a value in two attempts. JSON has no form for paths and failures, so the first attempt
gives up on a value that holds one; the second attempt takes them as their text.
-/
namespace MigrationScript.Json

mutual

/-- The text of a value. One that JSON has no form for is written as its text if `asText` says so;
otherwise there is no text of anything that holds it. -/
def attempt (asText : Bool) : Value → Option Text
  | .path t => if asText then some (ofText t) else none
  | .fault t => if asText then some (ofText t) else none
  | .list vs => (attemptAll asText vs).map (enclose '[' ']')
  | .fields fs => (attemptMembers asText fs).map (enclose '\x7b' '\x7d')
  | .null => some (ofValue .null)
  | .bool b => some (ofValue (.bool b))
  | .int n => some (ofValue (.int n))
  | .text t => some (ofValue (.text t))
  | .bytes b => some (ofValue (.bytes b))

def attemptAll (asText : Bool) : List Value → Option (List Text)
  | [] => some []
  | v :: vs => do
    let t ← attempt asText v
    let ts ← attemptAll asText vs
    return t :: ts

def attemptMembers (asText : Bool) : Fields → Option (List Text)
  | [] => some []
  | (key, v) :: fs => do
    let t ← attempt asText v
    let ts ← attemptMembers asText fs
    return (ofText key ++ ':' :: t) :: ts

end

/-- The text that the first attempt gives, or else the second. -/
def encode (v : Value) : Option Text :=
  (attempt false v).or (attempt true v)

mutual

/-- With all values as text if need be, the attempt gives the text. -/
theorem attempt_true : (v : Value) → attempt true v = some (ofValue v)
  | .path _ => rfl
  | .fault _ => rfl
  | .list vs => by rw [attempt, attemptAll_true vs]; rfl
  | .fields fs => by rw [attempt, attemptMembers_true fs]; rfl
  | .null => rfl
  | .bool _ => rfl
  | .int _ => rfl
  | .text _ => rfl
  | .bytes _ => rfl

theorem attemptAll_true : (vs : List Value) → attemptAll true vs = some (ofValues vs)
  | [] => rfl
  | v :: vs => by rw [attemptAll, attempt_true v, attemptAll_true vs]; rfl

theorem attemptMembers_true : (fs : Fields) → attemptMembers true fs = some (ofMembers fs)
  | [] => rfl
  | (key, v) :: fs => by rw [attemptMembers, attempt_true v, attemptMembers_true fs]; rfl

end

mutual

/-- If the first attempt gives a text, so does the second, and it is the same. -/
theorem attempt_of_false : (v : Value) → ∀ {t : Text}, attempt false v = some t → ofValue v = t
  | .path _, _, h => nomatch h
  | .fault _, _, h => nomatch h
  | .list vs, _, h => by
    obtain ⟨ts, hts, rfl⟩ := Option.map_eq_some_iff.mp h
    rw [ofValue, attemptAll_of_false vs hts]
  | .fields fs, _, h => by
    obtain ⟨ts, hts, rfl⟩ := Option.map_eq_some_iff.mp h
    rw [ofValue, attemptMembers_of_false fs hts]
  | .null, _, h => Option.some.inj h
  | .bool _, _, h => Option.some.inj h
  | .int _, _, h => Option.some.inj h
  | .text _, _, h => Option.some.inj h
  | .bytes _, _, h => Option.some.inj h

theorem attemptAll_of_false : (vs : List Value) → ∀ {ts : List Text},
    attemptAll false vs = some ts → ofValues vs = ts
  | [], _, h => Option.some.inj h
  | v :: vs, _, h => by
    obtain ⟨t, ht, h⟩ := Option.bind_eq_some_iff.mp h
    obtain ⟨ts, hts, h⟩ := Option.bind_eq_some_iff.mp h
    rw [ofValues, attempt_of_false v ht, attemptAll_of_false vs hts]
    exact Option.some.inj h

theorem attemptMembers_of_false : (fs : Fields) → ∀ {ts : List Text},
    attemptMembers false fs = some ts → ofMembers fs = ts
  | [], _, h => Option.some.inj h
  | (key, v) :: fs, _, h => by
    obtain ⟨t, ht, h⟩ := Option.bind_eq_some_iff.mp h
    obtain ⟨ts, hts, h⟩ := Option.bind_eq_some_iff.mp h
    rw [ofMembers, attempt_of_false v ht, attemptMembers_of_false fs hts]
    exact Option.some.inj h

end

/-- Whichever attempt succeeds, the text is the same. -/
theorem encode_eq (v : Value) : encode v = some (ofValue v) := by
  rw [encode, attempt_true]
  cases h : attempt false v with
  | none => rfl
  | some t => rw [attempt_of_false v h]; rfl

end MigrationScript.Json
