import MigrationScript.Log.Value

/-!
Log entries and the lines that are written of them.
-/
namespace MigrationScript

/-- The name above all loggers. -/
def rootLogger : Text := "sqlscript".toList

namespace Level

def debug : Int := 10

/-- The level of a logger that is given none. -/
def standard : Int := 30

/-- The level from which an event is shown even if nothing was set up to write it. -/
def urgent : Int := 30

/-- The names of levels and their numbers; the first name of a number is the one written. -/
def names : List (Text × Int) :=
  [("CRITICAL".toList, 50), ("FATAL".toList, 50), ("ERROR".toList, 40), ("WARNING".toList, 30),
   ("WARN".toList, 30), ("INFO".toList, 20), ("DEBUG".toList, 10), ("NOTSET".toList, 0)]

def text (n : Int) : Text :=
  match names.find? fun e => e.2 == n with
  | some e => e.1
  | none => "Level ".toList ++ Text.ofInt n

end Level

structure Entry where
  /-- The time at which the entry was made, as it is written. -/
  time : Text
  logger : Text
  level : Int
  event : Text
  /-- What is known about the script being worked on. -/
  context : Fields := []
  fields : Fields := []
  /-- A failure that the entry reports. -/
  fault : Option Text := none

/-- How an entry is written. -/
inductive Style where
  | structured
  | plain
  deriving DecidableEq, Repr

namespace Entry

/-- All fields of an entry: of two fields with one key the later wins, in the earlier's place. -/
def members (e : Entry) : Fields :=
  let own : Fields :=
    [("timestamp".toList, .text e.time), ("level".toList, .text (Level.text e.level)),
     ("logger".toList, .text e.logger), ("event".toList, .text e.event)]
  let all := Fields.merge (Fields.merge own e.context) e.fields
  match e.fault with
  | some t => Fields.put "exception".toList (.text t) all
  | none => all

/-- The written form of a failure of some kind: its text may be empty. -/
def faultText (kind text : Text) : Text :=
  if text.isEmpty then kind else kind ++ ": ".toList ++ text

def write (e : Entry) : Style → Text
  | .structured => Json.ofValue (.fields e.members)
  | .plain => List.intercalate " - ".toList [e.time, e.logger, Level.text e.level, e.event]

end Entry
end MigrationScript
