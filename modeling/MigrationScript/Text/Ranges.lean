/-!
Tables of characters: sets given by ranges of code points, and case forms given by runs of
characters that are mapped by one distance.
-/
namespace MigrationScript

/-- First and last code point of each range. -/
abbrev Ranges := List (Nat × Nat)

def Ranges.has (rs : Ranges) (c : Char) : Bool :=
  rs.any fun r => decide (r.1 ≤ c.toNat) && decide (c.toNat ≤ r.2)

/-- The characters `first`, `first + step`, … up to `last`; `target` is the form of the first. -/
structure CaseRun where
  first : Nat
  last : Nat
  step : Nat
  target : Nat

namespace CaseRun

/-- The form of a code point that belongs to the run. -/
def form? (r : CaseRun) (n : Nat) : Option Nat :=
  if r.first ≤ n ∧ n ≤ r.last ∧ (n - r.first) % r.step = 0 then
    some (r.target + (n - r.first))
  else
    none

/-- The form of a character in a table of runs and a list of longer forms; a character found in
neither keeps itself. -/
def form (runs : List CaseRun) (long : List (Nat × List Nat)) (c : Char) : List Char :=
  match runs.findSome? fun r => r.form? c.toNat with
  | some n => [Char.ofNat n]
  | none => match long.find? fun e => e.1 == c.toNat with
    | some e => e.2.map Char.ofNat
    | none => [c]

end CaseRun
end MigrationScript
