import MigrationScript.Dialect.Basic
import MigrationScript.Text.Word

/-!
Statements that their first words make special: program units, triggers and inline data. A head
is the list of a statement's first words in upper case, taken from its code.
-/
namespace MigrationScript.Dialect

/-- The head goes on with a word that starts with `word` and ends there or at a character that
belongs to no word. -/
def nextWord (word : String) : List Text → Bool
  | w :: _ => Text.startsWithWord word.toList w
  | [] => false

/-- Kinds of stored program units. -/
def unitKinds : List String :=
  ["FUNCTION", "PROCEDURE", "PACKAGE", "TYPE", "TRIGGER", "LIBRARY", "JAVA"]

/-- The head after `CREATE` without the words `OR REPLACE` and a word on editions, if it has
them. -/
def dropOptions (head : List Text) : List Text :=
  let rest := if ["OR".toList, "REPLACE".toList].isPrefixOf head then head.drop 2 else head
  match rest with
  | w :: more => if w = "EDITIONABLE".toList ∨ w = "NONEDITIONABLE".toList then more else rest
  | [] => []

/-- An anonymous block, or the creation of a stored program unit. -/
def isProgramUnit (head : List Text) : Bool :=
  nextWord "DECLARE" head || nextWord "BEGIN" head ||
    match head with
    | w :: rest =>
      w == "CREATE".toList && unitKinds.any fun kind => nextWord kind (dropOptions rest)
    | [] => false

/-- The words `FROM` and `STDIN` stand next to each other, somewhere after the first word. -/
def readsInput : List Text → Bool
  | _ :: w :: rest => (w == "FROM".toList && nextWord "STDIN" rest) || readsInput (w :: rest)
  | _ => false

/-- A copy whose data follow the statement. -/
def isInlineCopy : List Text → Bool
  | w :: rest => w == "COPY".toList && readsInput rest
  | [] => false

/-- The creation of a trigger, whose body holds statements of its own. -/
def isTrigger : List Text → Bool
  | w :: rest =>
    w == "CREATE".toList && (nextWord "TRIGGER" rest ||
      (match rest with
      | v :: rest => (v == "TEMP".toList || v == "TEMPORARY".toList) && nextWord "TRIGGER" rest
      | [] => false))
  | [] => false

/-- The head belongs to a statement that does not simply end at the usual delimiter. -/
def isSpecial : Dialect → List Text → Bool
  | oracle, head => isProgramUnit head
  | postgres, head => isInlineCopy head
  | sqlite, head => isTrigger head
  | _, _ => false

/-- The delimiter of special statements. -/
def specialDelimiter : Dialect → Delimiter
  | oracle => ⟨['/'], true⟩
  | postgres => ⟨['\\', '.'], true⟩
  | d => d.delimiter

/-- Special statements end only where all blocks that they open are closed. -/
def nestsBlocks (d : Dialect) : Bool :=
  d == sqlite

/-- What follows the head of a special statement is data and no code. -/
def carriesData (d : Dialect) : Bool :=
  d == postgres

end MigrationScript.Dialect
