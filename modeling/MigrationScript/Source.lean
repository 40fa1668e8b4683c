import MigrationScript.Bytes.EncodingName
import MigrationScript.Failure

/-!
Sources of a script's text and the lines they hold. A line ends at a line feed, at a carriage
return, or at both; the terminators are no part of the line.
-/
namespace MigrationScript

/-- Where the lines of a stream end. -/
inductive LineEnds where
  /-- At line feeds only. -/
  | feed
  /-- At line feeds, carriage returns, and pairs of both. -/
  | any
  /-- As with `any`, and every end is turned into a line feed before anything is read. -/
  | unified
  deriving DecidableEq, Repr

/-- How a source breaks off. -/
inductive Fault where
  /-- The source cannot be read on. -/
  | broken
  /-- A failure that has nothing to do with reading. -/
  | foreign (message : Text)
  deriving DecidableEq, Repr

inductive Source where
  | text (t : Text)
  /-- A stream of which the first `skip` characters are already read. -/
  | stream (t : Text) (ends : LineEnds) (skip : Nat) (closed : Bool)
  | bytes (bytes : List UInt8) (encoding : Encoding)
  /-- Lines that come one by one, and what happens after the last. -/
  | lines (ls : List Text) (fault : Option Fault)
  deriving DecidableEq, Repr

namespace Text

/-- The text with a line feed for every carriage return and for every pair of both. -/
def unifyEnds : Text → Text
  | [] => []
  | '\r' :: '\n' :: t => '\n' :: unifyEnds t
  | c :: t => (if c = '\r' then '\n' else c) :: unifyEnds t

/-- A character in front of the first line. -/
def consLine (c : Char) : List Text → List Text
  | [] => [[c]]
  | l :: ls => (c :: l) :: ls

/-- The lines of a text with their terminators, which are line feeds. -/
def linesAtFeed : Text → List Text
  | [] => []
  | c :: t => if c = '\n' then [c] :: linesAtFeed t else consLine c (linesAtFeed t)

/-- The lines of a text with their terminators of any kind. -/
def linesAtAny : Text → List Text
  | [] => []
  | '\r' :: '\n' :: t => ['\r', '\n'] :: linesAtAny t
  | c :: t => if c = '\n' ∨ c = '\r' then [c] :: linesAtAny t else consLine c (linesAtAny t)

/-- A line without the terminators at its end. -/
def trimLineEnd (line : Text) : Text :=
  dropEnd (fun c => c == '\r' || c == '\n') line

end Text

namespace Source

/-- Bytes with the name of their encoding. -/
def ofBytes (bytes : List UInt8) (encoding : Text) : Except Failure Source :=
  if encoding.contains '\x00' then .error .nulInEncoding
  else match Encoding.find? encoding with
    | none => .error (.unknownEncoding encoding)
    | some entry =>
      match entry.encoding with
      | none => .error (.textlessEncoding encoding)
      | some e => .ok (.bytes bytes e)

/-- The lines as the source hands them out, and the fault that comes after them. -/
def deliver : Source → List Text × Option Fault
  | text t => (Text.linesAtFeed (Text.unifyEnds t), none)
  | stream t ends skip closed =>
    if closed then ([], some .broken)
    else match ends with
      | .feed => (Text.linesAtFeed (t.drop skip), none)
      | .any => (Text.linesAtAny (t.drop skip), none)
      | .unified => (Text.linesAtFeed ((Text.unifyEnds t).drop skip), none)
  | bytes b e =>
    match e.decode? b with
    | some t => (Text.linesAtFeed (Text.unifyEnds t), none)
    | none => ([], some .broken)
  | lines ls fault => (ls, fault)

/-- The lines of a source, which is read to its end. -/
def read (s : Source) : Except Failure (List Text) :=
  match s.deliver with
  | (ls, none) => .ok (ls.map Text.trimLineEnd)
  | (_, some .broken) => .error .unreadable
  | (_, some (.foreign message)) => .error (.foreign message)

end Source
end MigrationScript
