import MigrationScript.Dialect.Head
import MigrationScript.Scan.Piece

/-!
A statement that is being assembled from lines. A draft follows literals, comments, the
statement's first words and its blocks over the lines, and so knows which line ends the statement.
-/
namespace MigrationScript

/-- What one line gives to a draft: its code, the place where the code ends, and the mode the line
leaves. -/
structure Scan where
  code : Text
  stop : Nat
  mode : Mode
  deriving DecidableEq, Repr

namespace Scan

/-- The code of a line by the rules of a dialect. -/
def ofLine (d : Dialect) (m : Mode) (line : Text) : Scan :=
  let (ps, last) := scanFrom d m none line
  ⟨Piece.codeOf ps, Piece.codeEnd ps, last⟩

/-- A line of data is taken as it is, and opens and closes nothing. -/
def ofData (m : Mode) (line : Text) : Scan :=
  ⟨line, (Text.trimEnd line).length, m⟩

/-- Code in the form in which it is compared: trimmed and in upper case, tabs as blanks. -/
def plainCode (s : Scan) : Text :=
  Text.upper (Text.trim (s.code.map fun c => if c = '\t' then ' ' else c))

end Scan

structure Draft where
  /-- The number of the first line. -/
  line : Int := 0
  lines : List Text := []
  /-- A delimiter given from outside, which stands above the dialect's own. -/
  override : Option Delimiter := none
  /-- The first words, as far as they are known. -/
  head : List Text := []
  /-- The first words were those of a special statement. -/
  special : Bool := false
  mode : Mode := .code
  /-- Where the code of the last line ends. -/
  stop : Nat := 0
  /-- How many blocks are open. -/
  depth : Nat := 0
  terminated : Bool := false
  deriving DecidableEq, Repr

namespace Draft

def isEmpty (s : Draft) : Bool :=
  s.lines.isEmpty

/-- A statement of dialect `d` that is in this state ends at this delimiter. -/
def delimiter (d : Dialect) (s : Draft) : Delimiter :=
  s.override.getD (if s.special then d.specialDelimiter else d.delimiter)

def setLine (n : Int) (s : Draft) : Draft :=
  { s with line := n }

def setDelimiter (x : Delimiter) (s : Draft) : Draft :=
  { s with override := some x }

/-- A head of more than eight words is not extended; one line may bring any number of them. -/
def extendHead (head : List Text) (code : Text) : List Text :=
  if head.length ≤ 8 then head ++ Text.words code else head

/-- One more word of a body's code: some words open a block, and `END` closes one if one is
open. -/
def countWord (depth : Nat) (word : Text) : Nat :=
  if word = "BEGIN".toList ∨ word = "CASE".toList then depth + 1
  else if word = "END".toList then depth - 1
  else depth

/-- The lines that come next are data. -/
def readsData (d : Dialect) (s : Draft) : Bool :=
  d.carriesData && s.special

/-- What the next line gives. -/
def scan (d : Dialect) (s : Draft) (line : Text) : Scan :=
  if s.readsData d then .ofData s.mode line else .ofLine d s.mode line

/-- The draft after one more line. -/
def add (d : Dialect) (s : Draft) (line : Text) : Draft :=
  let scan := s.scan d line
  let code := scan.plainCode
  let head := if s.override.isSome then s.head else extendHead s.head code
  let special := s.special || (s.override.isNone && d.isSpecial head)
  let depth :=
    if d.nestsBlocks && special then (Text.wordRuns code).foldl countWord s.depth else s.depth
  let next := { s with
    lines := s.lines ++ [line], head, special, mode := scan.mode, stop := scan.stop, depth }
  let ended := scan.mode = .code ∧ depth = 0 ∧ (next.delimiter d).ends code = true
  { next with terminated := s.terminated || decide ended }

/-- The lines as one text. -/
def text (s : Draft) : Text :=
  Text.joinLines s.lines

/-- A text without its last line, and without the white space that then ends it. -/
def dropLastLine (t : Text) : Text :=
  Text.trimEnd (Text.joinLines (Text.pieces (· == '\n') (Text.trimEnd t)).dropLast)

def lastLine (s : Draft) : Text :=
  s.lines.getLast?.getD []

/-- The delimiter stands in the last line where its code ends. -/
def holdsDelimiter (d : Dialect) (s : Draft) : Bool :=
  let x := (s.delimiter d).text
  decide (x.length ≤ s.stop) &&
    Text.upper ((s.lastLine.take s.stop).drop (s.stop - x.length)) == Text.upper x

/-- The text without the delimiter that ended it. A delimiter that is alone goes with its line.
Any other is cut out where the last line's code ends, together with the white space before it;
comments behind it stay. If something else stands there, the text is kept as it is. -/
def strippedText (d : Dialect) (s : Draft) : Text :=
  let x := s.delimiter d
  if x.alone then dropLastLine s.text
  else if s.holdsDelimiter d then
    let front := s.lastLine.take (s.stop - x.text.length)
    Text.trimEnd (Text.joinLines
      (s.lines.dropLast ++ [Text.trimEnd front ++ s.lastLine.drop s.stop]))
  else
    s.text

/-- The draft as a statement, with or without the delimiter that ended it. -/
def finish (d : Dialect) (strip : Bool) (s : Draft) : Statement :=
  ⟨s.line, if strip && s.terminated then s.strippedText d else s.text⟩

end Draft
end MigrationScript
