import MigrationScript.Text.Basic

/-!
Bytes written as text, six bits a character, and read back from it.
-/
namespace MigrationScript.Base64

/-- The character for a number below 64. -/
def digit (n : Nat) : Char :=
  if n < 26 then Char.ofNat (0x41 + n)
  else if n < 52 then Char.ofNat (0x61 + (n - 26))
  else if n < 62 then Char.ofNat (0x30 + (n - 52))
  else if n = 62 then '+'
  else '/'

/-- The number below 64 that a character stands for. -/
def value? (c : Char) : Option Nat :=
  (List.range 64).find? fun n => digit n == c

theorem value?_digit : ∀ n < 64, value? (digit n) = some n := by
  decide

theorem digit_ne_filler : ∀ n < 64, digit n ≠ '=' := by
  decide

/-- Three bytes make four characters; a shorter last group is filled up with `=`. -/
def encode : List UInt8 → Text
  | [] => []
  | [a] =>
    let n := a.toNat * 16
    [digit (n / 64), digit (n % 64), '=', '=']
  | [a, b] =>
    let n := (a.toNat * 256 + b.toNat) * 4
    [digit (n / 4096), digit (n / 64 % 64), digit (n % 64), '=']
  | a :: b :: c :: r =>
    let n := (a.toNat * 256 + b.toNat) * 256 + c.toNat
    digit (n / 262144) :: digit (n / 4096 % 64) :: digit (n / 64 % 64) :: digit (n % 64) :: encode r

/-- The number that some characters make up. -/
def number? (t : Text) : Option Nat :=
  (t.mapM value?).map (List.foldl (fun n d => n * 64 + d) 0)

/-- The bytes of a last group of characters, without what it is filled up with. The bits that are
left over are zero. -/
def lastGroup? : Text → Option (List UInt8)
  | [p, q] => (number? [p, q]).bind fun n =>
    if n % 16 = 0 then some [UInt8.ofNat (n / 16)] else none
  | [p, q, r] => (number? [p, q, r]).bind fun n =>
    if n % 4 = 0 then some [UInt8.ofNat (n / 1024), UInt8.ofNat (n / 4)] else none
  | _ => none

/-- The bytes of a text. Every four characters are a group, and only the last one is filled up. -/
def decode? : Text → Option (List UInt8)
  | [] => some []
  | p :: q :: r :: s :: t =>
    if s = '=' then
      if t = [] then lastGroup? (if r = '=' then [p, q] else [p, q, r]) else none
    else do
      let n ← number? [p, q, r, s]
      let more ← decode? t
      return UInt8.ofNat (n / 65536) :: UInt8.ofNat (n / 256) :: UInt8.ofNat n :: more
  | _ => none

theorem number?_digits (ns : List Nat) (h : ∀ n ∈ ns, n < 64) :
    number? (ns.map digit) = some (ns.foldl (fun n d => n * 64 + d) 0) := by
  have hvalues : (ns.map digit).mapM value? = some ns := by
    induction ns with
    | nil => rfl
    | cons n ns ih =>
      obtain ⟨hn, hns⟩ := List.forall_mem_cons.mp h
      rw [List.map_cons, List.mapM_cons, value?_digit n hn, ih hns]
      rfl
  rw [number?, hvalues]
  rfl

theorem number?_two {n : Nat} (h : n < 64 * 64) :
    number? [digit (n / 64), digit (n % 64)] = some n := by
  have hdigits := number?_digits [n / 64, n % 64] (by simp; omega)
  have hn : (0 * 64 + n / 64) * 64 + n % 64 = n := by omega
  exact hdigits.trans (congrArg some hn)

theorem number?_three {n : Nat} (h : n < 64 * 64 * 64) :
    number? [digit (n / 4096), digit (n / 64 % 64), digit (n % 64)] = some n := by
  have hdigits := number?_digits [n / 4096, n / 64 % 64, n % 64] (by simp; omega)
  have hn : ((0 * 64 + n / 4096) * 64 + n / 64 % 64) * 64 + n % 64 = n := by omega
  exact hdigits.trans (congrArg some hn)

theorem number?_four {n : Nat} (h : n < 64 * 64 * 64 * 64) :
    number? [digit (n / 262144), digit (n / 4096 % 64), digit (n / 64 % 64), digit (n % 64)] =
      some n := by
  have hdigits :=
    number?_digits [n / 262144, n / 4096 % 64, n / 64 % 64, n % 64] (by simp; omega)
  have hn : (((0 * 64 + n / 262144) * 64 + n / 4096 % 64) * 64 + n / 64 % 64) * 64 + n % 64 =
      n := by omega
  exact hdigits.trans (congrArg some hn)

/-- A byte is the end of a number that it is the end of. -/
theorem ofNat_eq {a : UInt8} {n : Nat} (h : n % 256 = a.toNat) : UInt8.ofNat n = a := by
  rw [← UInt8.toNat_inj, UInt8.toNat_ofNat', h]

/-- What bytes are written as is read as these bytes. -/
theorem decode?_encode (bytes : List UInt8) : decode? (encode bytes) = some bytes := by
  fun_induction encode bytes with
  | case1 => rfl
  | case2 a n =>
    have ha := a.toNat_lt
    have hnumber := number?_two (n := n) (by omega)
    have hrest : n % 16 = 0 := Nat.mul_mod_left _ 16
    have hbyte : UInt8.ofNat (n / 16) = a := ofNat_eq (by omega)
    simp [decode?, lastGroup?, hnumber, hrest, hbyte]
  | case3 a b n =>
    have ha := a.toNat_lt
    have hb := b.toNat_lt
    have hnumber := number?_three (n := n) (by omega)
    have hrest : n % 4 = 0 := Nat.mul_mod_left _ 4
    have hfirst : UInt8.ofNat (n / 1024) = a := ofNat_eq (by omega)
    have hsecond : UInt8.ofNat (n / 4) = b := ofNat_eq (by omega)
    have hfiller := digit_ne_filler (n % 64) (Nat.mod_lt _ (by decide))
    simp [decode?, lastGroup?, hfiller, hnumber, hrest, hfirst, hsecond]
  | case4 a b c r n ih =>
    have ha := a.toNat_lt
    have hb := b.toNat_lt
    have hc := c.toNat_lt
    have hnumber := number?_four (n := n) (by omega)
    have hfirst : UInt8.ofNat (n / 65536) = a := ofNat_eq (by omega)
    have hsecond : UInt8.ofNat (n / 256) = b := ofNat_eq (by omega)
    have hthird : UInt8.ofNat n = c := ofNat_eq (by omega)
    have hfiller := digit_ne_filler (n % 64) (Nat.mod_lt _ (by decide))
    simp [decode?, hfiller, hnumber, ih, hfirst, hsecond, hthird]

end MigrationScript.Base64
