import MigrationScript.Text.Case
import MigrationScript.Text.Quoted

/-!
The values a script is cut into: statements, and the delimiters that end them.
-/
namespace MigrationScript

/-- Text that ends a statement. A delimiter that is `alone` does so only where it makes up a
line's whole code. Letter case does not matter. -/
structure Delimiter where
  text : Text
  alone : Bool := false
  deriving DecidableEq, Repr

namespace Delimiter

def semicolon : Delimiter := ⟨[';'], false⟩

/-- The delimiter stands where a line's code, in upper case, ends. -/
def ends (d : Delimiter) (code : Text) : Bool :=
  if d.alone then code == Text.upper d.text else (Text.upper d.text).isSuffixOf code

def display (d : Delimiter) : Text :=
  "Delimiter(".toList ++ Text.quoted d.text ++ ", alone_on_line=".toList ++
    (if d.alone then "True" else "False").toList ++ [')']

end Delimiter

/-- A statement and the number of the line it starts on. -/
structure Statement where
  line : Int
  sql : Text
  deriving DecidableEq, Repr

def Statement.display (s : Statement) : Text :=
  "SQLStatement(line_number=".toList ++ Text.ofInt s.line ++ ", sql=".toList ++
    Text.quoted s.sql ++ [')']

end MigrationScript
