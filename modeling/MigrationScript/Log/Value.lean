import MigrationScript.Bytes.Base64

/-!
The values that log lines carry, and their text in JSON.
-/
namespace MigrationScript

inductive Value where
  | null
  | bool (b : Bool)
  | int (n : Int)
  | text (t : Text)
  | list (vs : List Value)
  /-- Keys and values in their order. -/
  | fields (fs : List (Text × Value))
  | path (t : Text)
  /-- The text of somebody else's failure. -/
  | fault (t : Text)
  | bytes (b : List UInt8)

namespace Json

/-- A character inside quotation marks. -/
def escape (c : Char) : Text :=
  if c = '"' then ['\\', '"']
  else if c = '\\' then ['\\', '\\']
  else if c = '\x08' then ['\\', 'b']
  else if c = '\t' then ['\\', 't']
  else if c = '\n' then ['\\', 'n']
  else if c = '\x0C' then ['\\', 'f']
  else if c = '\r' then ['\\', 'r']
  else if c.toNat < 0x20 then ['\\', 'u'] ++ Text.hex 4 c.toNat
  else [c]

def ofText (t : Text) : Text :=
  '"' :: t.flatMap escape ++ ['"']

/-- Items between brackets, separated by commas. -/
def enclose (left right : Char) (items : List Text) : Text :=
  left :: List.intercalate [','] items ++ [right]

mutual

/-- A value without any white space. Paths and failures are their text, and bytes are written in
base 64. -/
def ofValue : Value → Text
  | .null => "null".toList
  | .bool b => if b then "true".toList else "false".toList
  | .int n => Text.ofInt n
  | .text t => ofText t
  | .list vs => enclose '[' ']' (ofValues vs)
  | .fields fs => enclose '\x7b' '\x7d' (ofMembers fs)
  | .path t => ofText t
  | .fault t => ofText t
  | .bytes b => ofText (Base64.encode b)

def ofValues : List Value → List Text
  | [] => []
  | v :: vs => ofValue v :: ofValues vs

def ofMembers : List (Text × Value) → List Text
  | [] => []
  | (key, v) :: fs => (ofText key ++ ':' :: ofValue v) :: ofMembers fs

end

end Json

/-- Fields have an order and differ in their keys. -/
abbrev Fields := List (Text × Value)

namespace Fields

/-- A field that is set anew keeps its place; a field that was not there comes last. -/
def put (key : Text) (v : Value) : Fields → Fields
  | [] => [(key, v)]
  | (k, w) :: fs => if k = key then (k, v) :: fs else (k, w) :: put key v fs

/-- The fields of `more` set one after the other. -/
def merge (fs more : Fields) : Fields :=
  more.foldl (fun fs f => put f.1 f.2 fs) fs

end Fields
end MigrationScript
