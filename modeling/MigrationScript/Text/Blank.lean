import MigrationScript.Text.Basic

/-!
White space: the characters that trimming removes and that separate words.
-/
namespace MigrationScript

/-- White space. Next to the blank and the usual controls it holds the separators U+001C to
U+001F, the next-line control, and the spaces and line separators beyond ASCII. The spaces of
no width are not among them. -/
def isBlank (c : Char) : Bool :=
  let n := c.toNat
  (0x09 ≤ n && n ≤ 0x0D) || (0x1C ≤ n && n ≤ 0x20) || n == 0x85 || n == 0xA0 || n == 0x1680 ||
    (0x2000 ≤ n && n ≤ 0x200A) || n == 0x2028 || n == 0x2029 || n == 0x202F || n == 0x205F ||
    n == 0x3000

namespace Text

def trimStart (t : Text) : Text :=
  t.dropWhile isBlank

def trimEnd (t : Text) : Text :=
  dropEnd isBlank t

def trim (t : Text) : Text :=
  trimEnd (trimStart t)

/-- The words of a text, separated by any amount of white space. -/
def words (t : Text) : List Text :=
  runs isBlank t

end Text
end MigrationScript
