import MigrationScript.Text.Basic

/-!
Character sets: those laid out in rows and cells, in which two bytes are a character, and code
pages, in which every byte is one.
-/
namespace MigrationScript

/-- Characters in consecutive cells of a row. -/
structure CharRun where
  row : Nat
  cell : Nat
  chars : String

abbrev Charset := List CharRun

namespace Charset

/-- What stands in a table where there is no character. -/
def noChar : Char := '\uFFFD'

/-- The character in some cell of some row. -/
def char? (s : Charset) (row cell : Nat) : Option Char :=
  s.findSome? fun r =>
    if r.row = row ∧ r.cell ≤ cell then r.chars.toList[cell - r.cell]?.filter (· != noChar)
    else none

end Charset

structure CodePage where
  name : String
  /-- Other names that the page is asked for by. -/
  aliases : List String
  /-- The characters of the 256 bytes in their order. -/
  chars : Text
  deriving DecidableEq, Repr

namespace CodePage

/-- The characters of a page whose lower half is ASCII. -/
def onAscii (high : String) : Text :=
  (List.range 0x80).map Char.ofNat ++ high.toList

/-- The characters of a page that starts with ASCII and the control characters after it. -/
def onControls (high : String) : Text :=
  (List.range 0xA0).map Char.ofNat ++ high.toList

def char? (p : CodePage) (b : UInt8) : Option Char :=
  p.chars[b.toNat]?.filter (· != Charset.noChar)

def decode? (p : CodePage) (bytes : List UInt8) : Option Text :=
  bytes.mapM p.char?

end CodePage
end MigrationScript
