import MigrationScript.Log.Loggers
import MigrationScript.Path
import MigrationScript.Settings
import MigrationScript.Source

/-!
Scripts: sources read, filled and cut into statements. What happens on the way is logged, so the
outcome of each operation is its result together with what it did with the loggers.
-/
namespace MigrationScript

/-- A result and what was done with the loggers until it was there, in order. -/
structure Outcome (α : Type) where
  acts : List Loggers.Act
  result : Except Failure α

namespace Outcome

variable {α β : Type}

def ofExcept (r : Except Failure α) : Outcome α :=
  ⟨[], r⟩

/-- Goes on after a success; a failure ends everything. -/
def andThen (o : Outcome α) (f : α → Outcome β) : Outcome β :=
  match o.result with
  | .error e => ⟨o.acts, .error e⟩
  | .ok a =>
    let next := f a
    ⟨o.acts ++ next.acts, next.result⟩

/-- The same inside a context, which is left at the end of success and failure alike. -/
def within (fields : Fields) (o : Outcome α) : Outcome α :=
  ⟨.enter fields :: (o.acts ++ [.leave]), o.result⟩

end Outcome

/-- An event of this library, logged for following its work. -/
def happened (part event : String) (fields : Fields) : Loggers.Act :=
  .log (some part.toList) Level.debug event.toList fields

/-- What happens while statements are performed. -/
inductive Deed where
  | logged (a : Loggers.Act)
  /-- A statement's text was handed over. -/
  | called (sql : Text)

structure Script where
  cutting : Cutting
  statements : List Statement
  deriving DecidableEq, Repr

namespace Script

def foundEvent (f : Found) : Loggers.Act :=
  happened "core.splitter" "splitter.statement.found"
    [("line_number".toList, .int f.statement.line), ("sql".toList, .text f.statement.sql),
     ("terminated".toList, .bool f.terminated)]

def parsedEvent (lines statements : Nat) : Loggers.Act :=
  happened "script" "script.parsed"
    [("lines".toList, .int lines), ("statements".toList, .int statements)]

def performEvent (s : Statement) : Loggers.Act :=
  happened "script" "script.statement.execute" [("line_number".toList, .int s.line)]

def fallbackEvent (name : Text) : Loggers.Act :=
  happened "dialects" "dialects.fallback"
    [("dialect".toList, .text name), ("builder".toList, .text Dialect.generic.rulesName)]

/-- The dialect to cut by. That a name has no rules of its own is logged. -/
def useRules (r : Rules) : Outcome Dialect :=
  ⟨if r.own.isNone then [fallbackEvent r.name] else [], .ok r.dialect⟩

/-- The dialect that a name leads to. -/
def findRules (r : Dialect.Registry) (dialect : Option Text) : Outcome Dialect :=
  (Outcome.ofExcept (Rules.find r dialect)).andThen useRules

/-- The statements of a source. All lines are read before any is filled, and all are filled, also
those that turn out to be comments. -/
def parse (c : Cutting) (filling : Option Placeholders) (source : Source) :
    Outcome (List Statement) :=
  match source.read.bind (Placeholders.fillLines filling) with
  | .error e => ⟨[], .error e⟩
  | .ok lines =>
    let found := c.find lines
    ⟨found.map foundEvent ++ [parsedEvent lines.length found.length],
      .ok (found.map Found.statement)⟩

/-- A script from a source. -/
def ofSource (c : Cutting) (filling : Option Placeholders) (source : Source) : Outcome Script :=
  (parse c filling source).andThen fun statements => .ofExcept (.ok ⟨c, statements⟩)

/-- A script from a source under some settings, worked on in the context of its dialect. -/
def ofSettings (r : Dialect.Registry) (s : Settings) (source : Source) : Outcome Script :=
  .within [("dialect".toList, .text s.dialect)] <|
    (findRules r (some s.dialect)).andThen fun dialect =>
      ofSource ⟨dialect, s.strip⟩ s.filling source

/-- The content of a script file as a source. That the encoding exists is asked after the file was
found; that its name can be passed on at all, before. -/
def openFile (folder : Folder) (path encoding : Text) : Except Failure Source :=
  if encoding.contains '\x00' then .error .nulInEncoding
  else if path.contains '\x00' then .error .nulInPath
  else match folder.read? path with
    | none => .error (.unopenable path)
    | some content => Source.ofBytes content encoding

/-- A script from a file, opened and worked on in the context of the file. -/
def ofFile (r : Dialect.Registry) (folder : Folder) (path : Text) (s : Settings) :
    Outcome Script :=
  let path := Path.normal path
  .within [("script".toList, .text path)] <|
    (Outcome.ofExcept (openFile folder path s.encoding)).andThen (ofSettings r s)

/-- Statements handed one by one to `run`, each after an event that tells its line. A call may
fail and then is the last; what it makes of the state stays. -/
def performing {σ ε : Type} (run : σ → Text → σ × Option ε) (state : σ) :
    List Statement → (σ × Option ε) × List Deed
  | [] => ((state, none), [])
  | s :: rest =>
    let here := [.logged (performEvent s), .called s.sql]
    match run state s.sql with
    | (state, some e) => ((state, some e), here)
    | (state, none) =>
      let (result, more) := performing run state rest
      (result, here ++ more)

def display (s : Script) : Text :=
  "SQLScript(statements=".toList ++ Text.ofNat s.statements.length ++ [')']

end Script
end MigrationScript
