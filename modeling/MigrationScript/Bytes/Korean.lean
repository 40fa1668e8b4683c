import MigrationScript.Bytes.Chinese
import MigrationScript.Bytes.KoreanTable

/-!
Korean encodings. A syllable is made up of an initial, a vowel and perhaps a final; Unicode has all
of them in that order.
-/
namespace MigrationScript

inductive Korean where
  | eucKr
  | cp949
  | johab
  deriving DecidableEq, Repr

namespace Korean

def initials : Text :=
  "ㄱㄲㄴㄷㄸㄹㅁㅂㅃㅅㅆㅇㅈㅉㅊㅋㅌㅍㅎ".toList

def vowels : Text :=
  "ㅏㅐㅑㅒㅓㅔㅕㅖㅗㅘㅙㅚㅛㅜㅝㅞㅟㅠㅡㅢㅣ".toList

def finals : Text :=
  "ㄱㄲㄳㄴㄵㄶㄷㄹㄺㄻㄼㄽㄾㄿㅀㅁㅂㅄㅅㅆㅇㅈㅊㅋㅌㅍㅎ".toList

/-- The syllable of the initial, the vowel and the final with these numbers; the final 0 is none. -/
def syllable (initial vowel final : Nat) : Char :=
  Char.ofNat (0xAC00 + (initial * 21 + vowel) * 28 + final)

/-- The number of a letter, which a byte stands for. -/
def letterIndex? (letters : Text) (b : Nat) : Option Nat :=
  if 0xA1 ≤ b ∧ b ≤ 0xD3 then letters.idxOf? (Char.ofNat (0x3131 + (b - 0xA1))) else none

/-- A syllable spelled out in four pairs of bytes, of which the first announces the others. -/
def spelled? (initial vowel final : Nat) : Option Char :=
  match letterIndex? initials initial, letterIndex? vowels vowel with
  | some i, some v =>
    if final = 0xD4 then some (syllable i v 0)
    else (letterIndex? finals final).map fun f => syllable i v (f + 1)
  | _, _ => none

/-- KS X 1001 in the upper half of both bytes. -/
def ksX1001? (lead trail : Nat) : Option Char :=
  Charset.ksX1001.char? (lead - 0x80) (trail - 0x80)

def eucKrStep (b : Nat) (r : List Nat) : Option (Text × Nat) :=
  match b, r with
  | 0xA4, 0xD4 :: r =>
    match r with
    | 0xA4 :: i :: 0xA4 :: v :: 0xA4 :: f :: _ => (spelled? i v f).map fun c => ([c], 7)
    | _ => none
  | b, r =>
    match ascii? b, r with
    | some c, _ => some ([c], 0)
    | none, t :: _ => (ksX1001? b t).map fun c => ([c], 1)
    | none, [] => none

/-- The syllables that KS X 1001 lacks, in their order. -/
def addedSyllables : Array Char :=
  let present := (Charset.ksX1001.flatMap fun r => r.chars.toList.map Char.toNat).filter fun n =>
    decide (0xAC00 ≤ n) && decide (n < 0xAC00 + 11172)
  ((Chinese.without (List.range' 0xAC00 11172) present).map Char.ofNat).toArray

/-- The number of a trail byte of an added syllable: letters of ASCII come first. -/
def addedTrail? (trail : Nat) : Option Nat :=
  if 0x41 ≤ trail ∧ trail ≤ 0x5A then some (trail - 0x41)
  else if 0x61 ≤ trail ∧ trail ≤ 0x7A then some (trail - 0x61 + 26)
  else if 0x81 ≤ trail ∧ trail ≤ 0xFE then some (trail - 0x81 + 52)
  else none

/-- The place of an added syllable among them: the leads from 0xA1 on have fewer trails. -/
def addedIndex? (lead trail : Nat) : Option Nat :=
  (addedTrail? trail).bind fun t =>
    if 0x81 ≤ lead ∧ lead ≤ 0xA0 then some ((lead - 0x81) * 178 + t)
    else if 0xA1 ≤ lead ∧ lead ≤ 0xC6 ∧ t < 84 then some (32 * 178 + (lead - 0xA1) * 84 + t)
    else none

def cp949? (lead trail : Nat) : Option Char :=
  (ksX1001? lead trail).or ((addedIndex? lead trail).bind (addedSyllables[·]?))

/-- A part of a syllable in five bits. -/
inductive Part where
  | missing
  | at (index : Nat)

/-- Parts stand in groups of consecutive codes; each group has its first code, its length and the
number of its first part. -/
def part? (missing : Nat) (groups : List (Nat × Nat × Nat)) (code : Nat) : Option Part :=
  if code = missing then some .missing
  else
    (groups.find? fun g => decide (g.1 ≤ code) && decide (code < g.1 + g.2.1)).map fun g =>
      .at (g.2.2 + (code - g.1))

def initial? : Nat → Option Part := part? 1 [(2, 19, 0)]

def vowel? : Nat → Option Part := part? 2 [(3, 5, 0), (10, 6, 5), (18, 6, 11), (26, 4, 17)]

def final? : Nat → Option Part := part? 1 [(2, 16, 0), (19, 11, 16)]

/-- Parts that make a syllable up, or a letter that stands alone. -/
def composed? : Part → Part → Part → Option Char
  | .missing, .missing, .missing => some (Char.ofNat 0x3000)
  | .missing, .missing, .at f => finals[f]?
  | .missing, .at v, .missing => vowels[v]?
  | .at i, .missing, .missing => initials[i]?
  | .at i, .at v, .missing => some (syllable i v 0)
  | .at i, .at v, .at f => some (syllable i v (f + 1))
  | _, _, _ => none

/-- Symbols and ideographs of KS X 1001, where a lead byte covers two rows. Letters and syllables
have no place there. -/
def johabSymbol? (lead trail : Nat) : Option Char :=
  if lead = 0xD8 ∨ lead = 0xDF ∨ 0xF9 < lead ∨ trail < 0x31 ∨ (0x80 ≤ trail ∧ trail < 0x91) ∨
      trail % 0x80 = 0x7F ∨ (lead = 0xDA ∧ 0xA1 ≤ trail ∧ trail ≤ 0xD3) then
    none
  else
    let t := if trail < 0x91 then trail - 0x31 else trail - 0x43
    let row := if lead < 0xE0 then (lead - 0xD9) * 2 else (lead - 0xE0) * 2 + 0x29
    Charset.ksX1001.char? (row + t / 94 + 0x21) (t % 94 + 0x21)

def johab? (lead trail : Nat) : Option Char :=
  if lead < 0xD8 then
    match initial? (lead / 4 % 32), vowel? (lead % 4 * 8 + trail / 32), final? (trail % 32) with
    | some i, some v, some f => composed? i v f
    | _, _, _ => none
  else johabSymbol? lead trail

def decode? : Korean → List Nat → Option Text
  | eucKr => (Step.stateless eucKrStep).walk () 0
  | cp949 => (Step.doubleByte ascii? fun a b => (cp949? a b).map fun c => [c]).walk () 0
  | johab => (Step.doubleByte ascii? fun a b => (johab? a b).map fun c => [c]).walk () 0

end Korean
end MigrationScript
