import MigrationScript.Bytes.Japanese
import MigrationScript.Bytes.Korean

/-!
Encodings in seven bits, where escape sequences tell which character set the bytes after them belong
to.
-/
namespace MigrationScript

inductive Iso2022 where
  | jp
  | jp1
  | jp2
  | jp3
  | jp2004
  | jpExt
  | kr
  deriving DecidableEq, Repr

namespace Iso2022

/-- A set of characters that can be shifted in. -/
inductive Graphic where
  | ascii
  | roman
  | katakana
  /-- The upper half of Latin-1. -/
  | latin1
  /-- The upper half of a Greek page. -/
  | greek
  | jisX0208
  | jisX0212
  | firstPlane (late : Bool)
  | secondPlane
  | gb2312
  | ksX1001
  deriving DecidableEq, Repr

/-- Sets that can be designated, by the final character of the escape sequence, and whether they
have two bytes a character. ASCII can be designated everywhere. -/
def designations : Iso2022 → List ((Bool × Char) × Graphic)
  | jp => [((false, 'J'), .roman), ((true, 'B'), .jisX0208), ((true, '@'), .jisX0208)]
  | jp1 =>
    [((false, 'J'), .roman), ((true, 'B'), .jisX0208), ((true, '@'), .jisX0208),
     ((true, 'D'), .jisX0212)]
  | jp2 =>
    [((false, 'J'), .roman), ((true, 'B'), .jisX0208), ((true, '@'), .jisX0208),
     ((true, 'D'), .jisX0212), ((true, 'C'), .ksX1001), ((true, 'A'), .gb2312),
     ((false, 'A'), .latin1), ((false, 'F'), .greek)]
  | jp3 =>
    [((true, 'B'), .jisX0208), ((true, 'O'), .firstPlane false), ((true, 'P'), .secondPlane)]
  | jp2004 =>
    [((true, 'B'), .jisX0208), ((true, 'Q'), .firstPlane true), ((true, 'P'), .secondPlane)]
  | jpExt =>
    [((false, 'J'), .roman), ((false, 'I'), .katakana), ((true, 'B'), .jisX0208),
     ((true, '@'), .jisX0208), ((true, 'D'), .jisX0212)]
  | kr => [((true, 'C'), .ksX1001)]

def designated? (v : Iso2022) (double : Bool) (final : Nat) : Option Graphic :=
  if !double && final == 0x42 then some .ascii
  else v.designations.lookup (double, Char.ofNat final)

structure State where
  /-- The set that bytes belong to, and the one that they belong to while shifted. -/
  usual : Graphic
  other : Graphic
  /-- The set that single characters are taken from. -/
  single : Graphic
  shifted : Bool
  /-- An escape sequence of some other kind is passed on. -/
  passing : Bool

def State.start : State :=
  ⟨.ascii, .ascii, .ascii, false, false⟩

/-- The end of an escape sequence. -/
def isFinal (b : Nat) : Bool :=
  decide (0x40 ≤ b) && decide (b ≤ 0x5A)

/-- The second byte of an escape sequence that designates a set. -/
def isIntroducer (b : Nat) : Bool :=
  [0x24, 0x26, 0x28, 0x29, 0x2E].contains b

/-- The Japanese encodings know no shifts. They allow for a prefix that announces a revision of
a set. -/
def isJapanese (v : Iso2022) : Bool :=
  v != kr

/-- What comes after the escape character and designates a set: its length, and the state then. A
prefix is taken to be any two bytes that do not end the sequence. -/
def designate? (v : Iso2022) (s : State) : List Nat → Option (Nat × State)
  | k :: m :: r =>
    let prefixed := v.isJapanese && r.take 3 == [0x1B, 0x24, 0x42] &&
      (!isFinal m || (k == 0x26 && m == 0x40))
    if prefixed then some (5, { s with usual := .jisX0208 })
    else if isFinal m then
      if k = 0x24 then (v.designated? true m).map fun g => (2, { s with usual := g })
      else if k = 0x28 then (v.designated? false m).map fun g => (2, { s with usual := g })
      else if k = 0x29 then (v.designated? false m).map fun g => (2, { s with other := g })
      else if k = 0x2E ∧ v = jp2 then
        (v.designated? false m).map fun g => (2, { s with single := g })
      else none
    else
      match r with
      | f :: _ =>
        if k = 0x24 ∧ isFinal f then
          if m = 0x28 then (v.designated? true f).map fun g => (3, { s with usual := g })
          else if m = 0x29 then (v.designated? true f).map fun g => (3, { s with other := g })
          else none
        else none
      | [] => none
  | _ => none

/-- The Greek letters and symbols of 1987. -/
def greek? (b : Nat) : Option Char :=
  if b ∈ [0x24, 0x25, 0x2A, 0x2E, 0x52, 0x7F] then none
  else if b < 0x21 ∨ b ∈ [0x23, 0x26, 0x27, 0x28, 0x29, 0x2B, 0x2C, 0x2D, 0x30, 0x31, 0x32, 0x33,
      0x37, 0x3B, 0x3D] then
    some (Char.ofNat (b + 0x80))
  else if b = 0x21 then some '‘'
  else if b = 0x22 then some '’'
  else if b = 0x2F then some '―'
  else some (Char.ofNat (b + 0x350))

/-- A single character out of turn. -/
def single? (g : Graphic) (b : Nat) : Option Char :=
  match g with
  | .ascii => ascii? b
  | .latin1 => if b < 0x80 then some (Char.ofNat (b + 0x80)) else none
  | .greek => if b < 0x80 then greek? b else some (Char.ofNat (b - 0x80))
  | _ => none

/-- A character of a set with two bytes a character. -/
def pair? (g : Graphic) (row cell : Nat) : Option Text :=
  match g with
  | .jisX0208 => (Charset.jisX0208.char? row cell).map fun c => [c]
  | .jisX0212 => (Charset.jisX0212.char? row cell).map fun c => [c]
  | .firstPlane late => Japanese.firstPlaneNarrow? late row cell
  | .secondPlane => (Japanese.secondPlane? true row cell).map fun c => [c]
  | .gb2312 => (Charset.gb2312.char? row cell).map fun c => [c]
  | .ksX1001 => (Charset.ksX1001.char? row cell).map fun c => [c]
  | _ => none

/-- A byte that is no control character, in a set, and how many bytes after it belong to it. -/
def graphic? (g : Graphic) (b : Nat) (r : List Nat) : Option (Text × Nat) :=
  match g with
  | .ascii => some ([Char.ofNat b], 0)
  | .roman => (Japanese.roman? b).map fun c => ([c], 0)
  | .katakana => (Japanese.katakana? (b + 0x80)).map fun c => ([c], 0)
  | .latin1 => none
  | .greek => none
  | g =>
    match r with
    | t :: _ => (pair? g b t).map fun out => (out, 1)
    | [] => none

/-- An escape character. -/
def escape (v : Iso2022) (s : State) (r : List Nat) : Option (Text × Nat × State) :=
  match r with
  | [] => none
  | k :: r' =>
    if isIntroducer k then (v.designate? s r).map fun (more, s) => ([], more, s)
    else if k = 0x4E ∧ v = jp2 then
      match r' with
      | c :: _ => (single? s.single c).map fun c => ([c], 2, s)
      | [] => none
    else some (['\x1b'], 0, { s with passing := true })

def step (v : Iso2022) : Step State :=
  fun s b r =>
    if s.passing then some ([Char.ofNat b], 0, { s with passing := !isFinal b })
    else if b = 0x1B then escape v s r
    else if b = 0x0E ∧ !v.isJapanese then some ([], 0, { s with shifted := true })
    else if b = 0x0F ∧ !v.isJapanese then some ([], 0, { s with shifted := false })
    else if b = 0x0A then some (['\n'], 0, { s with shifted := false })
    else if b < 0x20 then some ([Char.ofNat b], 0, s)
    else if 0x80 ≤ b then none
    else
      (graphic? (if s.shifted then s.other else s.usual) b r).map fun (out, more) => (out, more, s)

def decode? (v : Iso2022) : List Nat → Option Text :=
  (step v).walk .start 0

end Iso2022
end MigrationScript
