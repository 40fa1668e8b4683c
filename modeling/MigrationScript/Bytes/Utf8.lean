import MigrationScript.Text.Basic

/-!
UTF-8.
-/
namespace MigrationScript.Utf8

/-- Decoding in the middle of a character: `owed` bytes are still to come, `value` is what the
bytes so far say, and the whole must reach `least`, or a shorter form was due. -/
def decodeFrom : Nat → Nat → Nat → List UInt8 → Option Text
  | 0, _, _, [] => some []
  | _ + 1, _, _, [] => none
  | 0, _, _, b :: r =>
    let n := b.toNat
    if n < 0x80 then (decodeFrom 0 0 0 r).map (Char.ofNat n :: ·)
    else if n < 0xC0 then none
    else if n < 0xE0 then decodeFrom 1 (n - 0xC0) 0x80 r
    else if n < 0xF0 then decodeFrom 2 (n - 0xE0) 0x800 r
    else if n < 0xF8 then decodeFrom 3 (n - 0xF0) 0x10000 r
    else none
  | owed + 1, value, least, b :: r =>
    if b.toNat < 0x80 || 0xBF < b.toNat then none
    else
      let n := value * 64 + (b.toNat - 0x80)
      if 0 < owed then decodeFrom owed n least r
      else if least ≤ n ∧ n.isValidChar then (decodeFrom 0 0 0 r).map (Char.ofNat n :: ·)
      else none

def decode? (bytes : List UInt8) : Option Text :=
  decodeFrom 0 0 0 bytes

/-- The byte order mark. -/
def mark : List UInt8 := [0xEF, 0xBB, 0xBF]

/-- Decoding without the byte order mark that may come first. A mark that breaks off is no text,
and no error. -/
def decodeMarked? (bytes : List UInt8) : Option Text :=
  if bytes.length < mark.length && bytes.isPrefixOf mark then some []
  else (decode? bytes).map fun t => (Text.after? ['\uFEFF'] t).getD t

end MigrationScript.Utf8
