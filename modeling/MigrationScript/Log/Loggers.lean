import MigrationScript.Failure
import MigrationScript.Log.Logger
import MigrationScript.Text.Case

/-!
All loggers together with the context that is entered, and what can be done with them: asking for a
logger, setting up the library's root, entering and leaving a context, and logging.
-/
namespace MigrationScript

structure Loggers where
  /-- The loggers that were asked for, by their full names. -/
  known : Text → Option Logger := fun _ => none
  /-- The contexts that are entered, the innermost first; each holds the outer ones. -/
  contexts : List Fields := []
  /-- Whether a logger hears a level, where it was asked since a level was set last. -/
  answers : Text → Int → Option Bool := fun _ _ => none
  /-- The times that are read off the clock, one for every entry that is made. -/
  times : Nat → Text
  /-- How many entries were made. -/
  made : Nat := 0

namespace Loggers

def context (s : Loggers) : Fields :=
  s.contexts.head?.getD []

def get (s : Loggers) (name : Text) : Logger :=
  (s.known name).getD {}

/-- One logger changed, which is known from then on. -/
def change (name : Text) (f : Logger → Logger) (s : Loggers) : Loggers :=
  { s with known := fun n => if n = name then some (f (s.get name)) else s.known n }

/-- The names of a logger and of all known ones above it. -/
def lineage (s : Loggers) (name : Text) : List Text :=
  name :: Logger.namesAbove (fun n => (s.known n).isSome) name.reverse

/-- A logger that is asked for by a name gets a filter. -/
def ask (name : Option Text) (s : Loggers) : Loggers :=
  s.change (loggerName name) (if name.isSome then Logger.addFilter else id)

/-- Changes of loggers that may break off; what is changed until then stays changed. -/
abbrev Setup := EStateM Failure Loggers

/-- The number of the level with some name, in either case. -/
def levelNumber (name : Text) : Setup Int :=
  match Level.names.lookup (Text.upper name) with
  | none => throw (.unknownLevel (Text.upper name))
  | some n => pure n

def changeRoot (f : Logger → Logger) : Setup Unit :=
  modify (change rootLogger f)

/-- Every logger is to find out anew which levels it hears. -/
def forget (s : Loggers) : Loggers :=
  { s with answers := fun _ _ => none }

/-- The root set to a level and to writing on the console in one style, and to handing its entries
to the other handlers that are given. What it had before is dropped. -/
def configure (level style : Text) (others : List (Nat × Style)) : Setup Unit := do
  changeRoot id
  let n ← levelNumber level
  changeRoot fun l => { l with level := n }
  modify forget
  changeRoot fun l => { l with handlers := [] }
  changeRoot (Logger.add (.console (Style.ofName style)))
  others.forM fun h => changeRoot (Logger.add (.other h.1 h.2))
  changeRoot fun l => { l with passesOn := false }

/-- A context entered; its fields stand above those outside. -/
def enter (fields : Fields) (s : Loggers) : Loggers :=
  { s with contexts := Fields.merge s.context fields :: s.contexts }

def leave (s : Loggers) : Loggers :=
  { s with contexts := s.contexts.tail }

/-- The level from which a logger hears anything. -/
def threshold (s : Loggers) (name : Text) : Int :=
  Logger.threshold ((s.lineage name).map s.get)

/-- A logger that has said whether it hears a level says the same again, whatever stands above it by
then. -/
def hears (s : Loggers) (name : Text) (level : Int) : Bool :=
  (s.answers name level).getD (decide (s.threshold name ≤ level))

def keepAnswer (name : Text) (level : Int) (s : Loggers) : Loggers :=
  { s with answers := fun n l =>
      if n = name ∧ l = level then some (s.hears name level) else s.answers n l }

/-- The handlers that get what a logger hears. -/
def handlers (s : Loggers) (name : Text) : List Handler :=
  Logger.reached ((s.lineage name).map s.get)

/-- The entry of an event that is logged under a name. -/
def entry (s : Loggers) (name : Option Text) (level : Int) (event : Text) (fields : Fields) :
    Entry :=
  { time := s.times s.made, logger := loggerName name, level, event,
    context := if (s.get (loggerName name)).filters = 0 then [] else s.context, fields }

/-- An event logged under a name. No entry is made of what the logger does not hear. -/
def log (name : Option Text) (level : Int) (event : Text) (fields : Fields) (s : Loggers) :
    Loggers × Output :=
  let s := s.ask name
  let next := s.keepAnswer (loggerName name) level
  if s.hears (loggerName name) level then
    ({ next with made := s.made + 1 },
      .ofEntry (s.entry name level event fields) (s.handlers (loggerName name)))
  else
    (next, {})

/-- Something done with loggers. -/
inductive Act where
  | ask (name : Option Text)
  | configure (level style : Text) (others : List (Nat × Style))
  | enter (fields : Fields)
  | leave
  | log (name : Option Text) (level : Int) (event : Text) (fields : Fields)

/-- One act, and what comes of it. -/
def step (s : Loggers) : Act → Loggers × Except Failure Output
  | .ask name => (s.ask name, .ok {})
  | .configure level style others =>
    match (configure level style others).run s with
    | .ok () s => (s, .ok {})
    | .error e s => (s, .error e)
  | .enter fields => (s.enter fields, .ok {})
  | .leave => (s.leave, .ok {})
  | .log name level event fields =>
    let (s, output) := s.log name level event fields
    (s, .ok output)

def run (s : Loggers) (acts : List Act) : Loggers :=
  acts.foldl (fun s a => (s.step a).1) s

/-- What an act writes; one that fails writes nothing. -/
def output (s : Loggers) (a : Act) : Output :=
  match (s.step a).2 with
  | .ok o => o
  | .error _ => {}

/-- What some acts write, one after the other. -/
def written (s : Loggers) : List Act → Output
  | [] => {}
  | a :: acts => s.output a ++ (s.step a).1.written acts

/-- The parts of the library that have loggers of their own. -/
def parts : List String :=
  ["core.splitter", "dialects", "script"]

/-- The library asks for its own loggers before anybody does anything. -/
def loading : List Act :=
  parts.map fun part => .ask (some part.toList)

/-- The loggers at the start. -/
def fresh (times : Nat → Text) : Loggers :=
  run { times } loading

end Loggers
end MigrationScript
