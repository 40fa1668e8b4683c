import MigrationScript.Bytes.Walk

/-!
Text whose characters beyond ASCII are told by digits behind its last hyphen: each number tells how
far the next insertion is from the one before it.
-/
namespace MigrationScript.Punycode

def digit? (c : Char) : Option Nat :=
  if c.isAlpha then some (c.toUpper.toNat - 0x41)
  else if c.isDigit then some (c.toNat - 0x30 + 26)
  else none

/-- Digits below it end a number; it depends on the place of the digit. -/
def threshold (place bias : Nat) : Nat :=
  min 26 (max 1 (36 * (place + 1) - bias))

/-- The number at the start of some digits, and the digits after it. -/
def number? (bias place weight value : Nat) : Text → Option (Nat × Text)
  | [] => none
  | c :: r =>
    match digit? c with
    | none => none
    | some d =>
      let value := value + d * weight
      let t := threshold place bias
      if d < t then some (value, r) else number? bias (place + 1) (weight * (36 - t)) value r

/-- The bias for small numbers, with as many steps as `fuel` has, which is enough if it is the
number itself. -/
def settle : Nat → Nat → Nat → Nat
  | 0, _, steps => steps
  | fuel + 1, n, steps =>
    if 455 < n then settle fuel (n / 35) (steps + 36) else steps + 36 * n / (n + 38)

/-- The bias after a number. -/
def adapt (n : Nat) (first : Bool) (length : Nat) : Nat :=
  let n := if first then n / 700 else n / 2
  let n := n + n / length
  settle (n + 1) n 0

theorem number?_length {bias place weight value : Nat} {t r : Text} {n : Nat}
    (h : number? bias place weight value t = some (n, r)) : r.length < t.length := by
  induction t generalizing place weight value with
  | nil => simp [number?] at h
  | cons c t ih =>
    simp only [number?] at h
    split at h
    · simp at h
    · split at h
      · simp only [Option.some.injEq, Prod.mk.injEq] at h
        simp [← h.2]
      · exact Nat.lt_succ_of_lt (ih h)

/-- The text with all insertions made. `place` counts on over all places of all characters before
`char`. -/
def insertAll (base : Text) (char place bias : Nat) (first : Bool) (digits : Text) : Option Text :=
  if digits.isEmpty then some base
  else
    match h : number? bias 0 1 0 digits with
    | none => none
    | some (n, r) =>
      let place := place + n
      let char := char + place / (base.length + 1)
      let place := place % (base.length + 1)
      if char.isValidChar then
        insertAll (base.take place ++ Char.ofNat char :: base.drop place) char (place + 1)
          (adapt n first (base.length + 1)) false r
      else none
termination_by digits.length
decreasing_by exact number?_length h

/-- A text in two parts: the characters of ASCII, and behind the last hyphen the insertions. -/
def ofParts (t : Text) : Text × Text :=
  match t.reverse.span (· != '-') with
  | (digits, _ :: base) => (base.reverse, digits.reverse)
  | (_, []) => ([], t)

def decode? (bytes : List Nat) : Option Text :=
  if bytes.all (decide <| · < 0x80) then
    let (base, digits) := ofParts (bytes.map Char.ofNat)
    insertAll base 0x80 0 72 true digits
  else none

end MigrationScript.Punycode
