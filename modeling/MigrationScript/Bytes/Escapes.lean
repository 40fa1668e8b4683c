import MigrationScript.Bytes.Walk

/-!
Latin-1 with escapes for other characters. An escape starts with a backslash. Two kinds that exist
are left out, and bytes that hold them are refused: characters by their names, and single halves of
surrogate pairs by their numbers, as no `Char` is one.
-/
namespace MigrationScript.Escapes

def hexDigit? (b : Nat) : Option Nat :=
  if 0x30 ≤ b ∧ b ≤ 0x39 then some (b - 0x30)
  else if 0x41 ≤ b ∧ b ≤ 0x46 then some (b - 0x41 + 10)
  else if 0x61 ≤ b ∧ b ≤ 0x66 then some (b - 0x61 + 10)
  else none

/-- The number that some digits make up, if there are `width` of them. -/
def hexNumber? : Nat → Nat → List Nat → Option Nat
  | 0, value, _ => some value
  | _ + 1, _, [] => none
  | width + 1, value, b :: r => (hexDigit? b).bind fun d => hexNumber? width (value * 16 + d) r

/-- The character with a number of `width` digits, behind the backslash and a letter. A surrogate's
number is refused. -/
def numbered? (width : Nat) (r : List Nat) : Option (Text × Nat) :=
  (hexNumber? width 0 r).bind fun n =>
    if n.isValidChar then some ([Char.ofNat n], width + 1) else none

/-- Only characters by number are escaped; any other backslash stands for itself. -/
def rawStep (b : Nat) (r : List Nat) : Option (Text × Nat) :=
  match b, r with
  | 0x5C, 0x75 :: r => numbered? 4 r
  | 0x5C, 0x55 :: r => numbered? 8 r
  | 0x5C, c :: _ => some (['\x5c', Char.ofNat c], 1)
  | b, _ => some ([Char.ofNat b], 0)

/-- Escapes of a single character behind the backslash. A line feed is left out. -/
def short? (c : Nat) : Option Text :=
  [(0x0A, []), (0x5C, ['\x5c']), (0x27, ['\x27']), (0x22, ['"']), (0x61, ['\x07']),
   (0x62, ['\x08']), (0x66, ['\x0c']), (0x6E, ['\n']), (0x72, ['\r']), (0x74, ['\t']),
   (0x76, ['\x0b'])].lookup c

def octalDigit? (b : Nat) : Option Nat :=
  if 0x30 ≤ b ∧ b ≤ 0x37 then some (b - 0x30) else none

/-- The number that at most `width` digits make up, and how many they are. -/
def octalNumber : Nat → Nat → List Nat → Nat × Nat
  | 0, value, _ => (value, 0)
  | _ + 1, value, [] => (value, 0)
  | width + 1, value, b :: r =>
    match octalDigit? b with
    | some d =>
      let (value, count) := octalNumber width (value * 8 + d) r
      (value, count + 1)
    | none => (value, 0)

/-- All escapes but those by name, which are refused. A backslash that starts none stands for
itself, unless it is the last character. -/
def step (b : Nat) (r : List Nat) : Option (Text × Nat) :=
  match b, r with
  | 0x5C, [] => none
  | 0x5C, 0x78 :: r => numbered? 2 r
  | 0x5C, 0x75 :: r => numbered? 4 r
  | 0x5C, 0x55 :: r => numbered? 8 r
  | 0x5C, 0x4E :: _ => none
  | 0x5C, c :: r =>
    match short? c with
    | some out => some (out, 1)
    | none =>
      if (octalDigit? c).isSome then
        let (value, count) := octalNumber 3 0 (c :: r)
        some ([Char.ofNat value], count)
      else some (['\x5c', Char.ofNat c], 1)
  | b, _ => some ([Char.ofNat b], 0)

def decodeRaw? : List Nat → Option Text :=
  (Step.stateless rawStep).walk () 0

def decode? : List Nat → Option Text :=
  (Step.stateless step).walk () 0

end MigrationScript.Escapes
