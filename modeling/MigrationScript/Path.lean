import MigrationScript.Text.Basic

/-!
Paths of files and the folder that a script is looked for in.
-/
namespace MigrationScript

namespace Path

/-- The slashes that a path starts at: none, one, or exactly two; more count as one. -/
def root (t : Text) : Text :=
  match (t.takeWhile (· == '/')).length with
  | 0 => []
  | 2 => ['/', '/']
  | _ => ['/']

/-- The names on the way. Repeated slashes and single dots lead nowhere. -/
def parts (t : Text) : List Text :=
  (Text.pieces (· == '/') t).filter fun p => !(p.isEmpty || p == ['.'])

/-- The plain form of a path; the empty path is a dot. -/
def normal (t : Text) : Text :=
  let whole := root t ++ List.intercalate ['/'] (parts t)
  if whole.isEmpty then ['.'] else whole

/-- The most bytes that a path may have. -/
def maxBytes : Nat := 4095

def byteCount (t : Text) : Nat :=
  t.foldl (fun n c => n + c.utf8Size) 0

end Path

/-- Files by the names on the way to them. Folders exist where files are in them. -/
structure Folder where
  files : List (List Text × List UInt8) := []

namespace Folder

def add (f : Folder) (path : Text) (content : List UInt8) : Folder :=
  ⟨(Path.parts path, content) :: f.files⟩

/-- A folder is at this place. -/
def isFolder (f : Folder) (place : List Text) : Bool :=
  place.isEmpty || f.files.any fun e => place.isPrefixOf e.1 && place.length < e.1.length

/-- The place that some names lead to from `place`. Every name but the last must lead to a folder;
outside the topmost folder nothing is known. -/
def walk (f : Folder) (place : List Text) : List Text → Option (List Text)
  | [] => some place
  | name :: rest =>
    if !f.isFolder place then none
    else if name = ['.', '.'] then
      if place.isEmpty then none else walk f place.dropLast rest
    else walk f (place ++ [name]) rest

/-- The content of the file at a path in its plain form. -/
def read? (f : Folder) (path : Text) : Option (List UInt8) :=
  if Path.maxBytes < Path.byteCount path || !(Path.root path).isEmpty then none
  else (f.walk [] (Path.parts path)).bind fun place => f.files.lookup place

end Folder
end MigrationScript
