import MigrationScript.Bytes.Base64
import MigrationScript.Bytes.Units

/-!
UTF-7. ASCII stands for itself; what else there is stands between a plus sign and a hyphen, as
UTF-16 units cut into digits of six bits.
-/
namespace MigrationScript.Utf7

/-- Where a decoder stands. -/
inductive State where
  | plain
  /-- Right behind the plus sign. -/
  | opened
  /-- Among digits. Their last `width` bits, with the value `rest`, are part of no unit yet, and the
  first half of a pair may be open. -/
  | within (width rest : Nat) (high : Option Nat)
  deriving DecidableEq, Repr

/-- Digits may end here: no half is open, and the bits left over only fill up the last digit. -/
def mayEnd (width rest : Nat) (high : Option Nat) : Bool :=
  high.isNone && decide (width < 6) && rest == 0

/-- A character outside the digits. -/
def plainStep (c : Char) : Option (Text × State) :=
  if c = '+' then some ([], .opened)
  else if c.toNat < 0x80 then some ([c], .plain)
  else none

/-- A digit with the value `n`, behind some other digits. -/
def digitStep (width rest : Nat) (high : Option Nat) (n : Nat) : Option (Text × State) :=
  let width := width + 6
  let rest := rest * 64 + n
  if width < 16 then some ([], .within width rest high)
  else
    let scale := Nat.pow 2 (width - 16)
    (Utf16.step high (rest / scale)).map fun (out, high) =>
      (out, .within (width - 16) (rest % scale) high)

/-- A character read: what it adds to the text, and where the decoder stands then. The hyphen that
ends digits is dropped; any other character that ends them stands for itself. -/
def step : State → Char → Option (Text × State)
  | .plain, c => plainStep c
  | .opened, c =>
    if c = '-' then some (['+'], .plain)
    else (Base64.value? c).bind (digitStep 0 0 none)
  | .within width rest high, c =>
    match Base64.value? c with
    | some n => digitStep width rest high n
    | none =>
      if !mayEnd width rest high then none
      else if c = '-' then some ([], .plain)
      else plainStep c

def decodeFrom : State → List UInt8 → Option Text
  | .within width rest high, [] => if mayEnd width rest high then some [] else none
  | _, [] => some []
  | s, b :: r =>
    match step s (Char.ofNat b.toNat) with
    | none => none
    | some (out, s) => (decodeFrom s r).map (out ++ ·)

def decode? (bytes : List UInt8) : Option Text :=
  decodeFrom .plain bytes

end MigrationScript.Utf7
