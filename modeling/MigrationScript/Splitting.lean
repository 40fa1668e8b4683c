import MigrationScript.Draft
import MigrationScript.Gap

/-!
Cutting the lines of a script into statements. The state of the work is a value, `Progress`; one
line is one step, and a script is a run over all its lines.
-/
namespace MigrationScript

structure Progress where
  /-- The number of the next line. -/
  number : Int := 1
  gap : Gap := {}
  /-- The statement whose lines are coming in, if any. -/
  draft : Option Draft := none
  deriving DecidableEq, Repr

/-- What one line did. -/
structure Turn where
  /-- The line's role, if it stood between statements. -/
  role : Option Role
  /-- The statement with the line, if it belongs to one. -/
  draft : Option Draft
  /-- The state in which the next line is met. -/
  after : Progress
  deriving DecidableEq, Repr

/-- The statement that the line ended. -/
def Turn.ended? (t : Turn) : Option Draft :=
  t.draft.filter Draft.terminated

namespace Progress

/-- The state after a line that was added to a statement, which is left once it has ended. -/
def keep (p : Progress) (s : Draft) : Progress :=
  { p with number := p.number + 1, draft := if s.terminated then none else some s }

/-- The statement that starts at the next line. -/
def begin (p : Progress) : Draft :=
  { line := p.number, override := p.gap.delimiter }

/-- One line. -/
def step (d : Dialect) (p : Progress) (line : Text) : Turn :=
  match p.draft with
  | some s =>
    let s := s.add d line
    ⟨none, some s, p.keep s⟩
  | none =>
    match p.gap.role d line with
    | .start =>
      let s := p.begin.add d line
      ⟨some .start, some s, p.keep s⟩
    | r => ⟨some r, none, { p with number := p.number + 1, gap := p.gap.after r }⟩

/-- The turns of several lines, one after the other. -/
def turns (d : Dialect) (p : Progress) : List Text → List Turn
  | [] => []
  | line :: lines => p.step d line :: turns d (p.step d line).after lines

/-- The state after several lines. -/
def run (d : Dialect) (p : Progress) (lines : List Text) : Progress :=
  lines.foldl (fun p line => (p.step d line).after) p

end Progress

/-- How statements are cut: by which dialect, and whether their delimiters are removed. -/
structure Cutting where
  dialect : Dialect := .generic
  strip : Bool := false
  deriving DecidableEq, Repr

/-- A statement of a script, and whether a delimiter ended it. -/
structure Found where
  statement : Statement
  terminated : Bool
  deriving DecidableEq, Repr

namespace Cutting

def finish (c : Cutting) (s : Draft) : Found :=
  ⟨s.finish c.dialect c.strip, s.terminated⟩

/-- The statements of the lines that come in the state `p`; what is left at the end is a statement
too. -/
def findFrom (c : Cutting) (p : Progress) : List Text → List Found
  | [] => p.draft.toList.map c.finish
  | line :: lines =>
    let turn := p.step c.dialect line
    turn.ended?.toList.map c.finish ++ findFrom c turn.after lines

def find (c : Cutting) (lines : List Text) : List Found :=
  c.findFrom {} lines

/-- The statements of a script, in their order. -/
def split (c : Cutting) (lines : List Text) : List Statement :=
  (c.find lines).map Found.statement

end Cutting
end MigrationScript
