import MigrationScript.Failure
import MigrationScript.Text.Basic

/-!
Placeholders: expressions between two marks that stand for configured values. Values are put in
as they are and not looked at again.
-/
namespace MigrationScript

structure Placeholders where
  /-- Names and their values; a name without a value stands for nothing. -/
  values : List (Text × Option Text) := []
  opening : Mark := ⟨'$', ['\x7b']⟩
  closing : Mark := ⟨'\x7d', []⟩
  deriving DecidableEq, Repr

/-- A part of a line. -/
inductive Segment where
  | plain (c : Char)
  | expression (name : Text)
  deriving DecidableEq, Repr

namespace Placeholders

/-- Placeholders between the given marks, neither of which may be empty. -/
def make (values : List (Text × Option Text)) (opening closing : Text) :
    Except Failure Placeholders :=
  match Mark.ofText? opening, Mark.ofText? closing with
  | some o, some c => .ok ⟨values, o, c⟩
  | _, _ => .error .emptyMark

/-- What stands before the first closing mark, if no line break does. -/
def upToClosing? (closing : Mark) : Text → Option Text
  | [] => none
  | c :: t =>
    if closing.text.isPrefixOf (c :: t) then some []
    else if c = '\n' then none
    else (upToClosing? closing t).map (c :: ·)

/-- The name of an expression that starts here. A name has at least one character. -/
def name? (p : Placeholders) (t : Text) : Option Text :=
  match Text.after? p.opening.text t with
  | some (c :: rest) => if c = '\n' then none else (upToClosing? p.closing rest).map (c :: ·)
  | _ => none

/-- The parts of a line, read from left to right. -/
def segments (p : Placeholders) : Text → List Segment
  | [] => []
  | c :: t =>
    match p.name? (c :: t) with
    | some name =>
      .expression name ::
        segments p (t.drop (p.opening.more.length + name.length + p.closing.text.length))
    | none => .plain c :: segments p t
termination_by t => t.length
decreasing_by all_goals (simp only [List.length_drop, List.length_cons]; omega)

/-- An expression as it is written. -/
def written (p : Placeholders) (name : Text) : Text :=
  p.opening.text ++ name ++ p.closing.text

/-- The text that a segment is replaced by, if it can be. -/
def fillSegment? (p : Placeholders) : Segment → Option Text
  | .plain c => some [c]
  | .expression name => (p.values.lookup name).map fun v => v.getD []

/-- The expressions of a line that have no value. -/
def unresolved (p : Placeholders) (ss : List Segment) : List Text :=
  ss.filterMap fun s => match s with
    | .plain _ => none
    | .expression name => if (p.fillSegment? s).isNone then some (p.written name) else none

/-- The line with all values put in; all expressions without one are reported together. A line in
which nothing opens is not looked at any further. -/
def fill (p : Placeholders) (line : Text) : Except Failure Text :=
  if (Text.find? p.opening.text line).isNone then .ok line
  else
    let ss := p.segments line
    let missing := Text.sortDistinct (p.unresolved ss)
    if missing.isEmpty then .ok (ss.flatMap fun s => (p.fillSegment? s).getD [])
    else .error (.unresolved missing)

/-- Lines filled where there are placeholders, and left as they are where there are none. -/
def fillLines (p : Option Placeholders) (lines : List Text) : Except Failure (List Text) :=
  match p with
  | some p => lines.mapM p.fill
  | none => .ok lines

end Placeholders
end MigrationScript
