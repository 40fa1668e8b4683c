import MigrationScript.Notice
import MigrationScript.Text.Quoted

/-!
What can go wrong, by cause, and how it is told.
-/
namespace MigrationScript

inductive Failure where
  /-- A mark that opens or closes placeholders is empty. -/
  | emptyMark
  /-- Nobody knows the dialect; some known names resemble it. -/
  | unknownDialect (name : Text) (similar : List Text)
  /-- A dialect's strategy is set to a truth value. -/
  | flagForStrategy
  /-- A dialect's settings have a key that is reserved. -/
  | reservedSetting
  /-- Placeholder expressions without a value. -/
  | unresolved (expressions : List Text)
  /-- The source broke off, or its bytes are no text. -/
  | unreadable
  /-- A script file cannot be opened. -/
  | unopenable (path : Text)
  /-- Somebody else's failure, passed on. -/
  | foreign (message : Text)
  | nulInPath
  | nulInEncoding
  | unknownEncoding (name : Text)
  /-- What goes by the name of an encoding makes no text of bytes. -/
  | textlessEncoding (name : Text)
  | unknownLevel (name : Text)
  /-- A part of a value was to be replaced. -/
  | immutable (value : Text)
  deriving DecidableEq, Repr

namespace Failure

/-- The notice given of a failure that is a matter of scripts. -/
def notice? : Failure → Option Notice
  | emptyMark => some (.ofRemarks .misconfigured []
      [.text "Placeholder prefix and suffix must not be empty".toList])
  | unknownDialect name similar =>
    let hint := if similar.isEmpty then []
      else ". Did you mean: ".toList ++ Text.joinList similar ++ ['?']
    some (.ofRemarks .misconfigured []
      [.text ("Unknown dialect ".toList ++ Text.quoted name ++ hint)])
  | unresolved expressions => some (.ofExpressions expressions)
  | unreadable => some (.ofRemarks .unreadable [] [])
  | unopenable path => some (.ofRemarks .unreadable []
      [.text ("Cannot read script file ".toList ++ path)])
  | _ => none

/-- The text of a failure. Of a name that makes no text only the start is told. -/
def message (f : Failure) : Text :=
  match f.notice? with
  | some n => n.text
  | none => match f with
    | foreign message => message
    | flagForStrategy => "'bool' object has no attribute 'upper'".toList
    | reservedSetting => "Dialect.__init__() got multiple values for argument 'self'".toList
    | nulInPath => "embedded null byte".toList
    | nulInEncoding => "embedded null character".toList
    | unknownEncoding name => "unknown encoding: ".toList ++ name
    | textlessEncoding name =>
      ['\x27'] ++ name.take 400 ++
        "' is not a text encoding; use codecs.open() to handle arbitrary codecs".toList
    | unknownLevel name => "module 'logging' has no attribute '".toList ++ name ++ ['\x27']
    | immutable value => value ++ " is immutable".toList
    | _ => []

end Failure
end MigrationScript
