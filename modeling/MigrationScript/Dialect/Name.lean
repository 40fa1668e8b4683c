import MigrationScript.Dialect.Basic
import MigrationScript.Failure
import MigrationScript.Text.Case
import MigrationScript.Text.Numeral
import MigrationScript.Text.Similar

/-!
Names of dialects. A name that was asked for is resolved to the one it stands for; more names are
known than there are dialects with rules of their own, and the others are cut by the generic rules.
-/
namespace MigrationScript.Dialect

/-- Other names of dialects with rules of their own. -/
def aliases : List (Text × Dialect) :=
  [("postgresql".toList, postgres), ("pg".toList, postgres), ("pgplsql".toList, postgres),
   ("mariadb".toList, mysql), ("plsql".toList, oracle), ("oracledb".toList, oracle),
   ("mssql".toList, tsql), ("sqlserver".toList, tsql)]

/-- The names that may be followed by settings. The empty name is one of them. -/
def knownNames : List Text :=
  ["", "athena", "bigquery", "clickhouse", "databricks", "dax", "doris", "dremio", "drill", "druid",
   "duckdb", "dune", "exasol", "fabric", "hive", "materialize", "mysql", "oracle", "postgres",
   "presto", "prql", "redshift", "risingwave", "singlestore", "snowflake", "solr", "spark",
   "spark2", "sqlite", "starrocks", "tableau", "teradata", "trino", "tsql"].map String.toList

def ofName? (t : Text) : Option Dialect :=
  all.find? fun d => d.name == t

/-- What a setting is set to. -/
inductive SettingValue where
  /-- A truth value; a setting that stands alone has one, too. -/
  | flag
  /-- More than one `=` follows the setting. -/
  | unclear
  | given (value : Text)
  deriving DecidableEq, Repr

/-- The ways to write a truth value. -/
def flags : List Text :=
  ["true", "1", "false", "0"].map String.toList

/-- The key of a setting and its value. -/
def setting (t : Text) : Text × SettingValue :=
  match Text.pieces (· == '=') t with
  | [] => ([], .flag)
  | [key] => (Text.trim key, .flag)
  | [key, value] =>
    let value := Text.trim value
    (Text.trim key, if flags.contains value then .flag else .given value)
  | key :: _ => (Text.trim key, .unclear)

/-- A name and the settings that follow it after commas. -/
def nameAndSettings (t : Text) : Text × List (Text × SettingValue) :=
  match Text.pieces (· == ',') t with
  | [] => ([], [])
  | name :: settings => (Text.trim name, settings.map setting)

/-- Of a setting that is made more than once the last counts. -/
def lastValue? (key : Text) (settings : List (Text × SettingValue)) : Option SettingValue :=
  settings.reverse.lookup key

def strategyKey : Text := "normalization_strategy".toList

def versionKey : Text := "version".toList

/-- The settings that a name may have. -/
def settingKeys (name : Text) : List Text :=
  let common := [strategyKey, versionKey]
  if (["presto", "trino", "athena", "dune"].map String.toList).contains name then
    "variant_extract_is_json_extract".toList :: common
  else
    common

def strategies : List Text :=
  ["LOWERCASE", "UPPERCASE", "CASE_SENSITIVE", "CASE_INSENSITIVE",
   "CASE_INSENSITIVE_UPPERCASE"].map String.toList

/-- A strategy is one of a few, in either case; an unclear value leaves the usual one. -/
def isStrategy : SettingValue → Bool
  | .flag => false
  | .unclear => true
  | .given value => strategies.contains (Text.upper value)

/-- A version has numbers between points, of which the first three are looked at. -/
def isVersion : SettingValue → Bool
  | .given value => ((Text.pieces (· == '.') value).take 3).all Text.isNumeral
  | _ => false

/-- A known name whose settings all exist and are set to something that they can be set to. -/
def isKnown (t : Text) : Bool :=
  let (name, settings) := nameAndSettings t
  knownNames.contains name && settings.all (fun s => (settingKeys name).contains s.1) &&
    (lastValue? strategyKey settings).all isStrategy &&
    (lastValue? versionKey settings).all isVersion

/-- The one key that nothing can be set by. -/
def reservedKey : Text := "self".toList

/-- What is wrong with the settings of a known name, where it is told in particular. The reserved
key is noticed first, then a wrong version, which is not told, and then the strategy; keys that do
not exist come last. -/
def settingFault? (t : Text) : Option Failure :=
  let (name, settings) := nameAndSettings t
  if !knownNames.contains name then none
  else if settings.any (fun s => s.1 == reservedKey) then some .reservedSetting
  else if (lastValue? versionKey settings).all isVersion &&
      lastValue? strategyKey settings == some .flag then some .flagForStrategy
  else none

/-- What is known of the names that have no rules of their own. -/
structure Registry where
  /-- The names as such. -/
  names : List Text
  /-- A name that can be used, with the settings that it has. -/
  isKnown : Text → Bool
  /-- What is told in particular of a name that cannot be used. -/
  fault? : Text → Option Failure

namespace Registry

def standard : Registry :=
  ⟨knownNames, Dialect.isKnown, settingFault?⟩

/-- All names that may be suggested, in order. -/
def candidates (r : Registry) : List Text :=
  Text.sortDistinct (all.map name ++ aliases.map Prod.fst ++ r.names)

end Registry

/-- The name that a name stands for. No name, or an empty one, stands for the generic dialect;
letter case and white space around it do not matter. -/
def resolve (r : Registry) : Option Text → Except Failure Text
  | none => .ok generic.name
  | some asked =>
    if asked.isEmpty then .ok generic.name
    else
      let plain := Text.trim (Text.lower asked)
      let found := ((aliases.lookup plain).map Dialect.name).getD plain
      if found = generic.name || r.isKnown found then .ok found
      else
        .error ((r.fault? found).getD
          (.unknownDialect asked (Text.suggestions found r.candidates)))

end MigrationScript.Dialect
