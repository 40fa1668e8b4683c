import MigrationScript.Text.Basic

/-!
Texts that resemble a given one. The measure of two texts counts the characters of their longest
common block, of the longest common blocks on its left and on its right, and so on.
-/
namespace MigrationScript.Text

/-- The length of what two texts have in common at their start. -/
def commonStart : Text → Text → Nat
  | a :: s, b :: t => if a = b then commonStart s t + 1 else 0
  | _, _ => 0

/-- A block of `size` characters, at `left` in one text and at `right` in the other. -/
structure Block where
  left : Nat
  right : Nat
  size : Nat

/-- The longer of `best` and the blocks that start the first text, found at `j` and later places
of the second. -/
def longestFrom (i : Nat) (s : Text) (best : Block) (j : Nat) : Text → Block
  | [] => best
  | c :: t =>
    let size := commonStart s (c :: t)
    longestFrom i s (if best.size < size then ⟨i, j, size⟩ else best) (j + 1) t

/-- As `longestFrom`, for the first text's start at `i` and its later places. -/
def longestWith (t : Text) (best : Block) (i : Nat) : Text → Block
  | [] => best
  | c :: s => longestWith t (longestFrom i (c :: s) best 0 t) (i + 1) s

/-- The longest common block; of several the first one, by its place in `s`, then in `t`. -/
def longestBlock (s t : Text) : Block :=
  longestWith t ⟨0, 0, 0⟩ 0 s

theorem commonStart_le (s t : Text) : commonStart s t ≤ s.length := by
  induction s generalizing t with
  | nil => simp [commonStart]
  | cons a s ih =>
    cases t with
    | nil => simp [commonStart]
    | cons b t =>
      have := ih t
      by_cases h : a = b <;> simp [commonStart, h]
      exact this

theorem longestFrom_bound {i n : Nat} {s : Text} (hs : i + s.length ≤ n) (t : Text) {best : Block}
    (hb : best.left + best.size ≤ n) (j : Nat) :
    (longestFrom i s best j t).left + (longestFrom i s best j t).size ≤ n := by
  induction t generalizing best j with
  | nil => exact hb
  | cons c t ih =>
    simp only [longestFrom]
    apply ih
    split
    · have := commonStart_le s (c :: t)
      simp only
      omega
    · exact hb

theorem longestWith_bound {n : Nat} (t s : Text) {best : Block} {i : Nat}
    (hb : best.left + best.size ≤ n) (hs : i + s.length ≤ n) :
    (longestWith t best i s).left + (longestWith t best i s).size ≤ n := by
  induction s generalizing best i with
  | nil => exact hb
  | cons c s ih =>
    simp only [List.length_cons] at hs
    exact ih (longestFrom_bound (by simpa using hs) t hb 0) (by omega)

/-- A common block lies inside the first text. -/
theorem longestBlock_bound (s t : Text) :
    (longestBlock s t).left + (longestBlock s t).size ≤ s.length :=
  longestWith_bound t s (Nat.zero_le _) (by simp)

/-- How many characters the common blocks of two texts hold. -/
def shared (s t : Text) : Nat :=
  match _h : longestBlock s t with
  | ⟨left, right, size⟩ =>
    if 0 < size then
      shared (s.take left) (t.take right) + size +
        shared (s.drop (left + size)) (t.drop (right + size))
    else
      0
termination_by s.length
decreasing_by
  all_goals
    have bound := longestBlock_bound s t
    simp only [_h] at bound
    simp only [List.length_take, List.length_drop]
    omega

/-- A candidate resembles a name if at least three fifths of their characters are shared. -/
def resembles (candidate name : Text) : Bool :=
  decide (3 * (candidate.length + name.length) ≤ 10 * shared candidate name)

/-- The order of suggestions for `name`: a greater share of common characters comes first, and of
equal shares the greater text. -/
def precedes (name s t : Text) : Bool :=
  let x := shared s name * (t.length + name.length)
  let y := shared t name * (s.length + name.length)
  decide (y < x) || (x == y && le t s)

/-- The three candidates that resemble a name most. -/
def suggestions (name : Text) (candidates : List Text) : List Text :=
  ((candidates.filter (resembles · name)).mergeSort (precedes name)).take 3

end MigrationScript.Text
