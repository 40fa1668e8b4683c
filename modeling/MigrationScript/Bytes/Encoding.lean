import MigrationScript.Bytes.Charset
import MigrationScript.Bytes.DomainName
import MigrationScript.Bytes.Escapes
import MigrationScript.Bytes.Iso2022
import MigrationScript.Bytes.Punycode
import MigrationScript.Bytes.Units
import MigrationScript.Bytes.Utf7
import MigrationScript.Bytes.Utf8

/-!
Bytes read as text. Decoding is strict: one malformed place spoils the whole.
-/
namespace MigrationScript

inductive Encoding where
  | utf7
  | utf8
  /-- UTF-8 whose first character, if it is a byte order mark, is no part of the text. -/
  | utf8Marked
  | utf16 (order : ByteOrder)
  | utf16Marked
  | utf32 (order : ByteOrder)
  | utf32Marked
  | ascii
  | latin1
  | page (page : CodePage)
  | chinese (c : Chinese)
  | japanese (j : Japanese)
  | korean (k : Korean)
  | iso2022 (v : Iso2022)
  | escapes
  /-- Escapes of characters by number only. -/
  | rawEscapes
  | punycode
  | domainName
  /-- No bytes at all are text. -/
  | undefined
  deriving DecidableEq, Repr

namespace Encoding

/-- The text of some bytes. -/
def decode? : Encoding → List UInt8 → Option Text
  | utf7, bytes => Utf7.decode? bytes
  | utf8, bytes => Utf8.decode? bytes
  | utf8Marked, bytes => Utf8.decodeMarked? bytes
  | utf16 order, bytes => Utf16.decode? order bytes
  | utf16Marked, bytes => Utf16.decodeMarked? bytes
  | utf32 order, bytes => Utf32.decode? order bytes
  | utf32Marked, bytes => Utf32.decodeMarked? bytes
  | ascii, bytes =>
    if bytes.all (fun b => decide (b.toNat < 0x80)) then
      some (bytes.map fun b => Char.ofNat b.toNat)
    else
      none
  | latin1, bytes => some (bytes.map fun b => Char.ofNat b.toNat)
  | page p, bytes => p.decode? bytes
  | chinese c, bytes => c.decode? (bytes.map UInt8.toNat)
  | japanese j, bytes => j.decode? (bytes.map UInt8.toNat)
  | korean k, bytes => k.decode? (bytes.map UInt8.toNat)
  | iso2022 v, bytes => v.decode? (bytes.map UInt8.toNat)
  | escapes, bytes => Escapes.decode? (bytes.map UInt8.toNat)
  | rawEscapes, bytes => Escapes.decodeRaw? (bytes.map UInt8.toNat)
  | punycode, bytes => Punycode.decode? (bytes.map UInt8.toNat)
  | domainName, bytes => DomainName.decode? (bytes.map UInt8.toNat)
  | undefined, _ => none

end Encoding
end MigrationScript
