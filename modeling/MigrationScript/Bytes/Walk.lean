import MigrationScript.Text.Basic

/-!
Decoding from left to right. Bytes are numbers below 256 here.
-/
namespace MigrationScript

/-- What a decoder makes of a byte and of those that follow it: some text, how many of the following
bytes belong to it, and the state it goes on in. -/
abbrev Step (σ : Type) := σ → Nat → List Nat → Option (Text × Nat × σ)

namespace Step

/-- The text of some bytes, of which the first `skip` are read already. -/
def walk {σ : Type} (step : Step σ) : σ → Nat → List Nat → Option Text
  | _, 0, [] => some []
  | _, _ + 1, [] => none
  | s, skip + 1, _ :: r => walk step s skip r
  | s, 0, b :: r =>
    match step s b r with
    | none => none
    | some (out, more, s) => (walk step s more r).map (out ++ ·)

/-- A decoder without a state. -/
def stateless (f : Nat → List Nat → Option (Text × Nat)) : Step Unit :=
  fun _ b r => (f b r).map fun (out, more) => (out, more, ())

/-- A decoder where a byte is a character of its own or makes one up with the next byte. -/
def doubleByte (single : Nat → Option Char) (pair : Nat → Nat → Option Text) : Step Unit :=
  stateless fun b r =>
    match single b, r with
    | some c, _ => some ([c], 0)
    | none, [] => none
    | none, t :: _ => (pair b t).map fun out => (out, 1)

end Step

/-- A byte of ASCII. -/
def ascii? (b : Nat) : Option Char :=
  if b < 0x80 then some (Char.ofNat b) else none

end MigrationScript
