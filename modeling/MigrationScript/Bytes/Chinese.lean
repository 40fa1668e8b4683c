import MigrationScript.Bytes.BigFiveTable
import MigrationScript.Bytes.GuobiaoTable
import MigrationScript.Bytes.HongKongTable
import MigrationScript.Bytes.VendorTable
import MigrationScript.Bytes.Walk

/-!
Chinese encodings.
-/
namespace MigrationScript

inductive Chinese where
  | gb2312
  | gbk
  | gb18030
  /-- GB 2312 in seven bits, between marks of two characters. -/
  | hz
  | big5
  | cp950
  | hkscs
  deriving DecidableEq, Repr

namespace Chinese

/-- GB 2312 in the upper half of both bytes. -/
def gb2312? (lead trail : Nat) : Option Char :=
  Charset.gb2312.char? (lead - 0x80) (trail - 0x80)

/-- The numbers of the first list without those of the second; both are in order. -/
def without : List Nat → List Nat → List Nat
  | [], _ => []
  | n :: ns, [] => n :: without ns []
  | n :: ns, m :: ms => if n = m then without ns ms else n :: without ns (m :: ms)

/-- The ideographs that GBK adds: those of the basic block that GB 2312 lacks, in their order, and
some others. -/
def addedIdeographs : Array Char :=
  let block := List.range' 0x4E00 20902
  let present := (Charset.gb2312.flatMap fun r => r.chars.toList.map Char.toNat).filter fun n =>
    decide (0x4E00 ≤ n) && decide (n < 0x4E00 + 20902)
  ((without block present.mergeSort).map Char.ofNat ++ Charset.gbkLast.toList).toArray

/-- The number of a trail byte from 0x40 on, where 0x7F does not count. -/
def trailIndex? (trail : Nat) : Option Nat :=
  if trail < 0x40 ∨ trail = 0x7F ∨ 0xFE < trail then none
  else some (if trail < 0x7F then trail - 0x40 else trail - 0x41)

/-- The place of an added ideograph among them: first come the leads below 0xA1, then, with half as
many trails, those from 0xAA on. -/
def addedIndex? (lead trail : Nat) : Option Nat :=
  (trailIndex? trail).bind fun t =>
    if 0x81 ≤ lead ∧ lead ≤ 0xA0 then some ((lead - 0x81) * 190 + t)
    else if 0xAA ≤ lead ∧ lead ≤ 0xFE ∧ t < 96 then some (32 * 190 + (lead - 0xAA) * 96 + t)
    else none

def gbk? (lead trail : Nat) : Option Char :=
  (Charset.gbkSymbols.char? lead trail).or <|
    (gb2312? lead trail).or ((addedIndex? lead trail).bind (addedIdeographs[·]?))

/-- Characters for private use, in three areas. -/
def private? (lead trail : Nat) : Option Char :=
  if 0xA1 ≤ trail ∧ trail ≤ 0xFE then
    if 0xAA ≤ lead ∧ lead ≤ 0xAF then
      some (Char.ofNat (0xE000 + (lead - 0xAA) * 94 + (trail - 0xA1)))
    else if 0xF8 ≤ lead ∧ lead ≤ 0xFE then
      some (Char.ofNat (0xE234 + (lead - 0xF8) * 94 + (trail - 0xA1)))
    else none
  else if 0xA1 ≤ lead ∧ lead ≤ 0xA7 then
    (trailIndex? trail).map fun t => Char.ofNat (0xE4C6 + (lead - 0xA1) * 96 + t)
  else none

def gb18030Pair? (lead trail : Nat) : Option Char :=
  (gbk? lead trail).or ((Charset.gb18030.char? lead trail).or (private? lead trail))

/-- The four-byte code with some number, below U+10000. -/
def basic? (n : Nat) : Option Char :=
  if n < 39420 then
    (Charset.gb18030Starts.reverse.find? fun s => decide (s.1 ≤ n)).map fun s =>
      Char.ofNat (s.2 + (n - s.1))
  else none

/-- Four bytes stand for the characters that two do not stand for, in their order. -/
def gb18030Four? (a b c d : Nat) : Option Char :=
  if 0x81 ≤ a ∧ a ≤ 0xFE ∧ 0x30 ≤ b ∧ b ≤ 0x39 ∧ 0x81 ≤ c ∧ c ≤ 0xFE ∧ 0x30 ≤ d ∧ d ≤ 0x39 then
    let low := (b - 0x30) * 1260 + (c - 0x81) * 10 + (d - 0x30)
    if a < 0x85 then basic? ((a - 0x81) * 12600 + low)
    else
      let n := 0x10000 + (a - 0x90) * 12600 + low
      if 0x90 ≤ a ∧ n ≤ 0x10FFFF then some (Char.ofNat n) else none
  else none

def gb18030Step (b : Nat) (r : List Nat) : Option (Text × Nat) :=
  match ascii? b, r with
  | some c, _ => some ([c], 0)
  | none, t :: r =>
    if 0x30 ≤ t ∧ t ≤ 0x39 then
      match r with
      | u :: v :: _ => (gb18030Four? b t u v).map fun c => ([c], 3)
      | _ => none
    else (gb18030Pair? b t).map fun c => ([c], 1)
  | none, [] => none

/-- A byte of text where `inside` tells whether bytes stand in pairs. -/
def hzStep : Step Bool
  | inside, 0x7E, r =>
    match r with
    | 0x7E :: _ => if inside then none else some (['~'], 1, inside)
    | 0x7B :: _ => if inside then none else some ([], 1, true)
    | 0x7D :: _ => if inside then some ([], 1, false) else none
    | 0x0A :: _ => if inside then none else some ([], 1, inside)
    | _ => none
  | false, b, _ => (ascii? b).map fun c => ([c], 0, false)
  | true, b, r =>
    match r with
    | [] => none
    | t :: _ => (Charset.gb2312.char? b t).map fun c => ([c], 1, true)

/-- In three rows Hong Kong has characters of its own for all that Big5 has there. -/
def isReplaced (lead trail : Nat) : Bool :=
  (lead == 0xC6 && decide (0xA1 ≤ trail)) || lead == 0xC7 || lead == 0xC8

def hkscs? (lead trail : Nat) : Option Text :=
  let usual := if isReplaced lead trail then none else Charset.big5.char? lead trail
  ((usual.or (Charset.hkscs.char? lead trail)).map fun c => [c]).or
    ((Charset.hkscsPairs.lookup (lead, trail)).map String.toList)

def decode? : Chinese → List Nat → Option Text
  | gb2312 => (Step.doubleByte ascii? fun a b => (gb2312? a b).map fun c => [c]).walk () 0
  | gbk => (Step.doubleByte ascii? fun a b => (gbk? a b).map fun c => [c]).walk () 0
  | gb18030 => (Step.stateless gb18030Step).walk () 0
  | hz => Step.walk hzStep false 0
  | big5 => (Step.doubleByte ascii? fun a b => (Charset.big5.char? a b).map fun c => [c]).walk () 0
  | cp950 =>
    (Step.doubleByte ascii? fun a b =>
      ((Charset.cp950.char? a b).or (Charset.big5.char? a b)).map fun c => [c]).walk () 0
  | hkscs => (Step.doubleByte ascii? hkscs?).walk () 0

end Chinese
end MigrationScript
