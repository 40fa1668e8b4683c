import MigrationScript.Text.Basic
import MigrationScript.Text.HiddenTable

/-!
Texts quoted for people to read. Characters without a visible form are written by number, and
the quotation mark that needs less escaping is chosen.
-/
namespace MigrationScript

def isVisible (c : Char) : Bool :=
  if c.toNat < 0x80 then decide (0x20 ≤ c.toNat) && decide (c.toNat < 0x7F)
  else !Ranges.hidden.has c

/-- A character inside quotation marks of the form `mark`. -/
def quotedChar (mark c : Char) : Text :=
  if c = mark || c = '\\' then ['\\', c]
  else if c = '\n' then ['\\', 'n']
  else if c = '\r' then ['\\', 'r']
  else if c = '\t' then ['\\', 't']
  else if isVisible c then [c]
  else if c.toNat < 0x100 then ['\\', 'x'] ++ Text.hex 2 c.toNat
  else if c.toNat < 0x10000 then ['\\', 'u'] ++ Text.hex 4 c.toNat
  else ['\\', 'U'] ++ Text.hex 8 c.toNat

namespace Text

/-- Single quotation marks, or double ones when the text holds single ones and no double one. -/
def quoted (t : Text) : Text :=
  let mark := if t.contains '\x27' && !t.contains '"' then '"' else '\x27'
  mark :: t.flatMap (quotedChar mark) ++ [mark]

end Text
end MigrationScript
