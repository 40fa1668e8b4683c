import MigrationScript.Text.Basic
import MigrationScript.Text.LowerTable
import MigrationScript.Text.UpperTable

/-!
Upper and lower case. One character may become several, so lengths are not kept; inside ASCII they
are. A sigma that ends a word has a lower-case form of its own: characters with case stand before it
and none follows, where marks and the like are looked through on both sides.
-/
namespace MigrationScript

def upperChar (c : Char) : Text :=
  if c.toNat < 0x80 then [c.toUpper] else CaseRun.form CaseRun.upper CaseRun.upperLong c

namespace Text

def upper (t : Text) : Text :=
  t.flatMap upperChar

@[simp] theorem upper_nil : upper [] = [] := rfl

@[simp] theorem upper_append (s t : Text) : upper (s ++ t) = upper s ++ upper t := by
  simp [upper]

end Text

private def hasCase (c : Char) : Bool :=
  if c.toNat < 0x80 then c.isAlpha else Ranges.cased.has c

private def isLookedThrough (c : Char) : Bool :=
  if c.toNat < 0x80 then c ∈ ['\x27', '.', ':', '^', '\x60'] else Ranges.caseIgnorable.has c

def lowerChar (c : Char) : Text :=
  if c.toNat < 0x80 then [c.toLower] else CaseRun.form CaseRun.lower CaseRun.lowerLong c

namespace Text

/-- The nearest character that is not looked through has case. -/
private def meetsCase (t : Text) : Bool :=
  (t.dropWhile isLookedThrough).head?.any hasCase

/-- Lower case of a text that stands after a character with case, or not. -/
def lowerAfter (afterCase : Bool) : Text → Text
  | [] => []
  | c :: t =>
    let here := if c = 'Σ' && afterCase && !meetsCase t then ['ς'] else lowerChar c
    here ++ lowerAfter (if isLookedThrough c then afterCase else hasCase c) t

def lower (t : Text) : Text :=
  lowerAfter false t

end Text
end MigrationScript
