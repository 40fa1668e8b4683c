import MigrationScript.Text.Blank

/-!
Notices: what is told about a script that cannot be read, prepared or cut. A notice has a detail,
which gives the reason, and may have further messages.
-/
namespace MigrationScript

namespace Notice

/-- The kinds of notices; all others are special cases of the general one. -/
inductive Kind where
  | general
  | unreadable
  | unresolved
  | misconfigured
  deriving DecidableEq, Repr

namespace Kind

def all : List Kind :=
  [general, unreadable, unresolved, misconfigured]

def name : Kind → Text
  | general => "SQLScriptError".toList
  | unreadable => "StreamReadError".toList
  | unresolved => "PlaceholderError".toList
  | misconfigured => "ImproperConfigurationError".toList

/-- The detail of a notice that is given none. -/
def standardDetail : Kind → Text
  | unreadable => "Cannot parse lines".toList
  | _ => []

/-- The kinds that a notice of this kind belongs to. -/
def ancestry : Kind → List Kind
  | general => [general]
  | k => [general, k]

end Kind

/-- Something said in a notice. What is nothing, false, zero or empty is not said. -/
inductive Remark where
  | nothing
  | flag (b : Bool)
  | number (n : Int)
  | text (t : Text)
  deriving DecidableEq, Repr

def Remark.spoken? : Remark → Option Text
  | .nothing => none
  | .flag b => if b then some "True".toList else none
  | .number n => if n = 0 then none else some (Text.ofInt n)
  | .text t => if t.isEmpty then none else some t

end Notice

structure Notice where
  kind : Notice.Kind
  detail : Text
  messages : List Text := []
  deriving DecidableEq, Repr

namespace Notice

/-- Without a detail of its own a notice takes its first remark for it, and without remarks the
standard one of its kind. -/
def ofRemarks (kind : Kind) (detail : Text) (remarks : List Remark) : Notice :=
  let messages := remarks.filterMap Remark.spoken?
  if detail.isEmpty then
    match messages with
    | [] => ⟨kind, kind.standardDetail, []⟩
    | m :: rest => ⟨kind, m, rest⟩
  else
    ⟨kind, detail, messages⟩

/-- Expressions without a value. -/
def ofExpressions (expressions : List Text) : Notice :=
  ofRemarks .unresolved [] [.text ("No value provided for placeholder expressions: ".toList ++
    Text.joinList expressions ++ ". Check your configuration!".toList)]

/-- The messages and the detail in one line, the detail last. -/
def text (n : Notice) : Text :=
  Text.trim (List.intercalate [' '] (n.messages ++ [n.detail]))

def display (n : Notice) : Text :=
  if n.detail.isEmpty then n.kind.name else n.kind.name ++ " - ".toList ++ n.detail

end Notice
end MigrationScript
