import MigrationScript.Dialect.Name
import MigrationScript.Placeholders
import MigrationScript.Splitting

/-!
The settings under which a script is read and cut.
-/
namespace MigrationScript

/-- Settings that are asked for. -/
structure Wishes where
  dialect : Option Text := none
  values : List (Text × Option Text) := []
  opening : Text := ['$', '\x7b']
  closing : Text := ['\x7d']
  replacing : Bool := true
  strip : Bool := false
  encoding : Text := "utf-8".toList
  deriving DecidableEq, Repr

/-- Settings that can be used: the dialect is resolved and the marks are not empty. -/
structure Settings where
  dialect : Text
  placeholders : Placeholders
  replacing : Bool
  strip : Bool
  encoding : Text
  deriving DecidableEq, Repr

namespace Settings

/-- The marks are looked at before the dialect. -/
def make (r : Dialect.Registry) (w : Wishes) : Except Failure Settings := do
  let placeholders ← Placeholders.make w.values w.opening w.closing
  let dialect ← Dialect.resolve r w.dialect
  return ⟨dialect, placeholders, w.replacing, w.strip, w.encoding⟩

/-- The placeholders to fill, if any are to be filled. -/
def filling (s : Settings) : Option Placeholders :=
  if s.replacing then some s.placeholders else none

end Settings

/-- The rules that a dialect's name leads to. -/
structure Rules where
  /-- The name as resolved. -/
  name : Text
  /-- The dialect with rules of its own, if the name has one. -/
  own : Option Dialect
  deriving DecidableEq, Repr

namespace Rules

def find (r : Dialect.Registry) (asked : Option Text) : Except Failure Rules :=
  (Dialect.resolve r asked).map fun name => ⟨name, Dialect.ofName? name⟩

/-- Names without rules of their own are cut by the generic rules. -/
def dialect (r : Rules) : Dialect :=
  r.own.getD .generic

end Rules
end MigrationScript
