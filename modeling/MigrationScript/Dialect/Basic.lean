import MigrationScript.Statement
import MigrationScript.Text.Blank
import MigrationScript.Text.Numeral

/-!
The dialects that have statement rules of their own, and the rules that concern one line: comment
marks, delimiters, delimiter directives and executable comments.
-/
namespace MigrationScript

inductive Dialect where
  | generic
  | mysql
  | oracle
  | postgres
  | sqlite
  | tsql
  deriving DecidableEq, Repr

/-- A comment that may run over several lines starts here. -/
def startsBlockComment (t : Text) : Bool :=
  ['/', '*'].isPrefixOf t

def endsBlockComment (t : Text) : Bool :=
  ['*', '/'].isSuffixOf t

namespace Dialect

def all : List Dialect :=
  [generic, mysql, oracle, postgres, sqlite, tsql]

/-- The name a dialect is asked for by. -/
def name : Dialect → Text
  | generic => "generic".toList
  | mysql => "mysql".toList
  | oracle => "oracle".toList
  | postgres => "postgres".toList
  | sqlite => "sqlite".toList
  | tsql => "tsql".toList

/-- The name under which a dialect's rules are reported. -/
def rulesName : Dialect → Text
  | generic => "SQLStatementBuilder".toList
  | mysql => "MySQLStatementBuilder".toList
  | oracle => "OracleStatementBuilder".toList
  | postgres => "PostgresStatementBuilder".toList
  | sqlite => "SQLiteStatementBuilder".toList
  | tsql => "TSQLStatementBuilder".toList

/-- A comment that runs to the end of the line starts here. -/
def startsLineComment (d : Dialect) (t : Text) : Bool :=
  ['-', '-'].isPrefixOf t || (d == mysql && ['#'].isPrefixOf t)

def delimiter : Dialect → Delimiter
  | tsql => ⟨['G', 'O'], true⟩
  | _ => .semicolon

/-- A comment that the server executes: `/*!` and a version of five digits. It counts as code
between statements. -/
def isExecutableComment (d : Dialect) (line : Text) : Bool :=
  d == mysql && match Text.after? ['/', '*', '!'] line with
    | some rest => decide (5 ≤ (rest.take 5).length) && (rest.take 5).all isDecimalDigit
    | none => false

/-- The words of a directive may be written in either case; of the letter I the dotted capital
and the dotless small form count as well. -/
def isDirectiveWord (word : Text) : Bool :=
  word.map (fun c => if c = 'İ' || c = 'ı' then 'I' else c.toUpper) == "DELIMITER".toList

/-- The delimiter that a directive line sets: `DELIMITER`, then the delimiter's text as the only
other word. -/
def directive? (d : Dialect) (line : Text) : Option Delimiter :=
  if d = mysql then
    match Text.words line with
    | [keyword, text] => if isDirectiveWord keyword then some ⟨text, false⟩ else none
    | _ => none
  else
    none

end Dialect
end MigrationScript
