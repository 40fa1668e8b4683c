import MigrationScript.Text.Basic

/-!
Characters written as units of 16 or of 32 bits, and the bytes of such units. A character beyond
U+FFFF takes a pair of 16-bit units, and one of 32 bits.
-/
namespace MigrationScript

/-- Which byte of a number comes first. -/
inductive ByteOrder where
  | little
  | big
  deriving DecidableEq, Repr

namespace ByteOrder

/-- The number that some bytes make up. -/
def value (order : ByteOrder) (bytes : List UInt8) : Nat :=
  let digits := match order with
    | little => bytes.reverse
    | big => bytes
  digits.foldl (fun n b => n * 256 + b.toNat) 0

end ByteOrder

namespace Utf16

def isHighHalf (u : Nat) : Bool :=
  decide (0xD800 ≤ u) && decide (u < 0xDC00)

def isLowHalf (u : Nat) : Bool :=
  decide (0xDC00 ≤ u) && decide (u < 0xE000)

/-- A unit read after `high`, the first half of a pair if one is open: the characters that are
complete by now, and the first half that is open then. Halves stand in pairs only. -/
def step (high : Option Nat) (u : Nat) : Option (Text × Option Nat) :=
  match high with
  | some h =>
    if isLowHalf u then some ([Char.ofNat (0x10000 + (h - 0xD800) * 0x400 + (u - 0xDC00))], none)
    else none
  | none =>
    if isHighHalf u then some ([], some u)
    else if isLowHalf u then none
    else some ([Char.ofNat u], none)

def decodeFrom (order : ByteOrder) (high : Option Nat) : List UInt8 → Option Text
  | [] => if high.isNone then some [] else none
  | [_] => none
  | a :: b :: r =>
    match step high (order.value [a, b]) with
    | none => none
    | some (out, high) => (decodeFrom order high r).map (out ++ ·)

def decode? (order : ByteOrder) (bytes : List UInt8) : Option Text :=
  decodeFrom order none bytes

/-- Decoding of text that starts with a byte order mark, which it must unless it is empty. -/
def decodeMarked? : List UInt8 → Option Text
  | [] => some []
  | 0xFF :: 0xFE :: r => decode? .little r
  | 0xFE :: 0xFF :: r => decode? .big r
  | _ => none

end Utf16

namespace Utf32

def decode? (order : ByteOrder) : List UInt8 → Option Text
  | [] => some []
  | a :: b :: c :: d :: r =>
    let n := order.value [a, b, c, d]
    if n.isValidChar then (decode? order r).map (Char.ofNat n :: ·) else none
  | _ => none

/-- Decoding of text that starts with a byte order mark, which it must unless it is empty. -/
def decodeMarked? : List UInt8 → Option Text
  | [] => some []
  | 0xFF :: 0xFE :: 0 :: 0 :: r => decode? .little r
  | 0 :: 0 :: 0xFE :: 0xFF :: r => decode? .big r
  | _ => none

end Utf32
end MigrationScript
