import MigrationScript.Splitting

/-!
What can be asked of a draft, one call after the other and in any order: lines come in, the line
number and the delimiter are set, questions about a line are answered, and the statement is handed
out.
-/
namespace MigrationScript

/-- Something asked of a draft. -/
inductive Call where
  | add (line : Text)
  | setLine (n : Int)
  | setDelimiter (x : Delimiter)
  | isExecutableComment (line : Text)
  | startsLineComment (line : Text)
  | startsBlockComment (line : Text)
  | endsBlockComment (line : Text)
  | directive (line : Text)
  | finish
  deriving DecidableEq, Repr

/-- What a call gives back. -/
inductive Reply where
  | nothing
  | flag (b : Bool)
  | delimiter (x : Option Delimiter)
  | statement (s : Statement)
  deriving DecidableEq, Repr

namespace Draft

/-- One call. A draft that has ended takes lines as before. -/
def call (c : Cutting) (s : Draft) : Call → Draft × Reply
  | .add line => (s.add c.dialect line, .nothing)
  | .setLine n => (s.setLine n, .nothing)
  | .setDelimiter x => (s.setDelimiter x, .nothing)
  | .isExecutableComment line => (s, .flag (c.dialect.isExecutableComment line))
  | .startsLineComment line => (s, .flag (c.dialect.startsLineComment line))
  | .startsBlockComment line => (s, .flag (MigrationScript.startsBlockComment line))
  | .endsBlockComment line => (s, .flag (MigrationScript.endsBlockComment line))
  | .directive line => (s, .delimiter (c.dialect.directive? line))
  | .finish => (s, .statement (s.finish c.dialect c.strip))

/-- The draft after several calls. -/
def calls (c : Cutting) (s : Draft) (cs : List Call) : Draft :=
  cs.foldl (fun s a => (s.call c a).1) s

end Draft
end MigrationScript
