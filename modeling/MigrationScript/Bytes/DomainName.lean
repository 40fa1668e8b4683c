import MigrationScript.Bytes.Walk

/-!
Text read like the name of an internet domain, that is as labels with points between them. It is
read in parts: a label may still go on at the end of a part and is left for the next.
-/
namespace MigrationScript.DomainName

/-- A label in ASCII; encoded ones are refused. -/
def label? (t : Text) : Option Text :=
  if "xn--".toList.isPrefixOf t then none else some t

/-- The length of some labels with the points between them, where points do not count until some
label has characters. -/
def extent (labels : List Text) : Nat :=
  labels.foldl (fun n l => n + (if n = 0 then 0 else 1) + l.length) 0

/-- What a part says, and how many characters of it are done. -/
def part? (last : Bool) (t : Text) : Option (Text × Nat) :=
  if t.isEmpty then some ([], 0)
  else
    let labels := Text.pieces (· == '.') t
    let closed := (labels.getLast?.getD []).isEmpty
    let whole := if closed || !last then labels.dropLast else labels
    let point := if closed || (!last && !whole.isEmpty) then ['.'] else []
    (whole.mapM label?).map fun whole =>
      (List.intercalate ['.'] whole ++ point, extent whole + point.length)

/-- Reads the end of a text until nothing is left of it. -/
def finish? : Nat → Text → Option Text
  | 0, _ => some []
  | fuel + 1, t =>
    if t.isEmpty then some []
    else (part? true t).bind fun (out, done) => (finish? fuel (t.drop done)).map (out ++ ·)

def decode? (bytes : List Nat) : Option Text :=
  if bytes.all (decide <| · < 0x80) then
    let t := bytes.map Char.ofNat
    (part? false t).bind fun (out, done) => (finish? (t.length + 1) (t.drop done)).map (out ++ ·)
  else none

end MigrationScript.DomainName
