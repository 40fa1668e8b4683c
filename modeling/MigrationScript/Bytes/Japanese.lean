import MigrationScript.Bytes.JisExtensionTable
import MigrationScript.Bytes.JisSupplementTable
import MigrationScript.Bytes.JisTable
import MigrationScript.Bytes.VendorTable
import MigrationScript.Bytes.Walk

/-!
Japanese encodings without escape sequences.
-/
namespace MigrationScript

inductive Japanese where
  | eucJp
  | shiftJis
  | cp932
  /-- JIS X 0213 as of 2004, or as of 2000. -/
  | eucJis (late : Bool)
  | shiftJis0213 (late : Bool)
  deriving DecidableEq, Repr

namespace Japanese

/-- Letters of JIS X 0201, which has no backslash and no tilde. -/
def roman? (b : Nat) : Option Char :=
  if b = 0x5C then some '¥' else if b = 0x7E then some '‾' else ascii? b

/-- Katakana of half width. -/
def katakana? (b : Nat) : Option Char :=
  if 0xA1 ≤ b ∧ b ≤ 0xDF then some (Char.ofNat (0xFEC0 + b)) else none

/-- The first plane of JIS X 0213. -/
def firstPlane? (late : Bool) (row cell : Nat) : Option Text :=
  if !late && Charset.jisX0213Late.contains (row, cell) then none
  else
    (((Charset.jisX0208.char? row cell).or (Charset.jisX0213First.char? row cell)).map
      fun c => [c]).or ((Charset.jisX0213Pairs.lookup (row, cell)).map String.toList)

/-- The first plane with the tilde of ASCII in place of the wide one. -/
def firstPlaneNarrow? (late : Bool) (row cell : Nat) : Option Text :=
  if row = 0x22 ∧ cell = 0x32 then some ['~'] else firstPlane? late row cell

/-- The second plane of JIS X 0213, where one character got another form in 2004. -/
def secondPlane? (late : Bool) (row cell : Nat) : Option Char :=
  if !late && row == 0x7D && cell == 0x3B then some '鬝' else Charset.jisX0213Second.char? row cell

/-- Text with bytes of the upper half in pairs, with `second` after a mark in pairs, too, and with
katakana after another one. -/
def eucStep (first : Nat → Nat → Option Text) (second : Nat → Nat → Option Char) (b : Nat)
    (r : List Nat) : Option (Text × Nat) :=
  match b, r with
  | 0x8E, t :: _ => (katakana? t).map fun c => ([c], 1)
  | 0x8F, t :: u :: _ => (second (t - 0x80) (u - 0x80)).map fun c => ([c], 2)
  | b, r =>
    match ascii? b, r with
    | some c, _ => some ([c], 0)
    | none, t :: _ => (first (b - 0x80) (t - 0x80)).map fun out => (out, 1)
    | none, [] => none

/-- The row and the cell for a lead and a trail byte, where a lead byte covers two rows and leaves
out what katakana take. -/
def shifted? (lead trail : Nat) : Option (Nat × Nat) :=
  if trail < 0x40 ∨ trail = 0x7F ∨ 0xFC < trail then none
  else
    let t := if trail < 0x7F then trail - 0x40 else trail - 0x41
    if 0x81 ≤ lead ∧ lead ≤ 0x9F then some ((lead - 0x81) * 2 + t / 94 + 0x21, t % 94 + 0x21)
    else if 0xE0 ≤ lead ∧ lead ≤ 0xFC then some ((lead - 0xC1) * 2 + t / 94 + 0x21, t % 94 + 0x21)
    else none

/-- Rows after the last one of JIS X 0208 are for private use. -/
def private? (row cell : Nat) : Option Char :=
  if 0x7F ≤ row ∧ row < 0x93 then some (Char.ofNat (0xE000 + (row - 0x7F) * 94 + (cell - 0x21)))
  else none

def cp932Single? (b : Nat) : Option Char :=
  if b ≤ 0x80 then some (Char.ofNat b)
  else if b = 0xA0 then some (Char.ofNat 0xF8F0)
  else if 0xFD ≤ b then some (Char.ofNat (0xF8F1 + (b - 0xFD)))
  else katakana? b

def cp932? (row cell : Nat) : Option Char :=
  (Charset.cp932.char? row cell).or ((Charset.jisX0208.char? row cell).or (private? row cell))

/-- The rows of the second plane for the rows after the last of the first. -/
def secondRows : List Nat :=
  [0x21, 0x28, 0x23, 0x24, 0x25, 0x2C, 0x2D, 0x2E, 0x2F] ++ List.range' 0x6E 17

def shiftJis0213? (late : Bool) (row cell : Nat) : Option Text :=
  if row = 0x21 ∧ cell = 0x40 then some ['\x5c']
  else if row < 0x7F then firstPlaneNarrow? late row cell
  else
    secondRows[row - 0x7F]?.bind fun row => (secondPlane? late row cell).map fun c => [c]

def shiftStep (single : Nat → Option Char) (pair : Nat → Nat → Option Text) : Step Unit :=
  Step.doubleByte single fun a b => (shifted? a b).bind fun (row, cell) => pair row cell

def decode? : Japanese → List Nat → Option Text
  | eucJp =>
    (Step.stateless (eucStep (fun row cell => (Charset.jisX0208.char? row cell).map fun c => [c])
      Charset.jisX0212.char?)).walk () 0
  | eucJis late =>
    (Step.stateless (eucStep (firstPlane? late) fun row cell =>
      (secondPlane? late row cell).or (Charset.jisX0212.char? row cell))).walk () 0
  | shiftJis =>
    (shiftStep (fun b => (ascii? b).or (katakana? b)) fun row cell =>
      (Charset.jisX0208.char? row cell).map fun c => [c]).walk () 0
  | cp932 => (shiftStep cp932Single? fun row cell => (cp932? row cell).map fun c => [c]).walk () 0
  | shiftJis0213 late =>
    (shiftStep (fun b => (roman? b).or (katakana? b)) (shiftJis0213? late)).walk () 0

end Japanese
end MigrationScript
