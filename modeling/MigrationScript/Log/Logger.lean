import MigrationScript.Log.Entry

/-!
Loggers and what an entry meets on its way up from one. A name is cut into parts by points, and a
logger stands below those whose names its own name goes on from.
-/
namespace MigrationScript

/-- The full name of a logger; no name is the root's. -/
def loggerName : Option Text → Text
  | none => rootLogger
  | some name =>
    if rootLogger.isPrefixOf name then name else rootLogger ++ '.' :: name

/-- The name is the root's or goes on from it with a point. -/
def isBelowRoot (logger : Text) : Bool :=
  logger == rootLogger || (rootLogger ++ ['.']).isPrefixOf logger

/-- The style that goes by a name. Every name but one stands for plain lines. -/
def Style.ofName (name : Text) : Style :=
  if name = "structured".toList then .structured else .plain

/-- What writes the entries that a logger hands to it. Handlers that somebody else made are told
apart by a number. -/
inductive Handler where
  | console (style : Style)
  | other (number : Nat) (style : Style)
  deriving DecidableEq, Repr

namespace Handler

def style : Handler → Style
  | console s => s
  | other _ s => s

/-- The lines that a handler writes of an entry. It takes every one that it gets. -/
def lines (h : Handler) (e : Entry) : List Text :=
  Text.pieces (· == '\n') (e.write h.style)

end Handler

/-- What comes of something that is done with loggers. -/
structure Output where
  /-- The lines that handlers write. -/
  lines : List Text := []
  /-- What is shown as an error, because no handler was there to write it. -/
  strays : List Text := []
  deriving DecidableEq, Repr

namespace Output

instance : Append Output where
  append a b := ⟨a.lines ++ b.lines, a.strays ++ b.strays⟩

/-- An entry is written by every handler that it meets. If it meets none, the text of its event is
all that is shown, and only if it is urgent. -/
def ofEntry (e : Entry) : List Handler → Output
  | [] => { strays := if Level.urgent ≤ e.level then Text.pieces (· == '\n') e.event else [] }
  | h :: hs => { lines := (h :: hs).flatMap (·.lines e) }

end Output

structure Logger where
  /-- Zero stands for none. -/
  level : Int := 0
  handlers : List Handler := []
  /-- Entries go on to the loggers above. -/
  passesOn : Bool := true
  /-- How many filters add the context to what is logged here. -/
  filters : Nat := 0
  deriving DecidableEq, Repr

namespace Logger

/-- A handler that is there already is not added again. -/
def add (h : Handler) (l : Logger) : Logger :=
  if h ∈ l.handlers then l else { l with handlers := l.handlers ++ [h] }

/-- A second filter is not added. -/
def addFilter (l : Logger) : Logger :=
  if l.filters = 0 then { l with filters := 1 } else l

/-- The handlers that an entry meets on its way along some loggers. -/
def reached : List Logger → List Handler
  | [] => []
  | l :: above => l.handlers ++ if l.passesOn then reached above else []

/-- The level that holds for the first of some loggers: the first of theirs. -/
def threshold : List Logger → Int
  | [] => Level.standard
  | l :: above => if l.level = 0 then threshold above else l.level

/-- The known names above a name that is given backwards, the longest first. What stands in front of
a point is tried. If nobody knows it, the search goes on in front of its last character. -/
def namesAbove (known : Text → Bool) : Text → List Text
  | [] => []
  | [_] => []
  | c :: d :: back =>
    if c = '.' then
      if known (d :: back).reverse then (d :: back).reverse :: namesAbove known (d :: back)
      else namesAbove known back
    else namesAbove known (d :: back)

end Logger
end MigrationScript
