import MigrationScript.Dialect.Basic

/-!
The lines between statements: which of them start a statement, and what the others leave behind.
-/
namespace MigrationScript

/-- What is remembered between statements. -/
structure Gap where
  /-- A comment over several lines is open. -/
  inComment : Bool := false
  /-- The delimiter of the last directive. -/
  delimiter : Option Delimiter := none
  deriving DecidableEq, Repr

/-- What a line does that stands between statements. -/
inductive Role where
  | blank
  /-- Part of a comment, which is open after the line or not. -/
  | comment (stillOpen : Bool)
  | directive (x : Delimiter)
  /-- A delimiter that ends nothing. -/
  | separator
  | start
  deriving DecidableEq, Repr

namespace Gap

/-- The delimiter that statements starting here have. -/
def activeDelimiter (d : Dialect) (g : Gap) : Delimiter :=
  g.delimiter.getD d.delimiter

/-- The role of a line as a comment, if it has it. An executable comment is none; a comment over
several lines stays open until a line ends with its closing mark. -/
def commentRole? (d : Dialect) (g : Gap) (trimmed : Text) : Option Role :=
  if d.isExecutableComment trimmed then none
  else if g.inComment || startsBlockComment trimmed then
    some (.comment !endsBlockComment trimmed)
  else if d.startsLineComment trimmed then some (.comment false)
  else none

def role (d : Dialect) (g : Gap) (line : Text) : Role :=
  let trimmed := Text.trim line
  if trimmed.isEmpty then .blank
  else match g.commentRole? d trimmed with
    | some r => r
    | none => match d.directive? line with
      | some x => .directive x
      | none =>
        let active := g.activeDelimiter d
        if active.alone && Text.upper trimmed == Text.upper active.text then .separator
        else .start

/-- The gap after a line with the given role. -/
def after (g : Gap) : Role → Gap
  | .comment stillOpen => { g with inComment := stillOpen }
  | .directive x => { g with delimiter := some x }
  | _ => g

end Gap
end MigrationScript
