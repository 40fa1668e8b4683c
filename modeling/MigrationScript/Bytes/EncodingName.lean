import MigrationScript.Bytes.CodePageTable
import MigrationScript.Bytes.Encoding

/-!
Names of encodings. Letter case does not matter in them, nor what stands between their parts.
-/
namespace MigrationScript.Encoding

/-- What goes by some names. -/
structure Entry where
  name : String
  aliases : List String
  /-- It is missing of what turns bytes or text into something else than text. -/
  encoding : Option Encoding
  deriving DecidableEq, Repr

def ofPage (p : CodePage) : Entry :=
  ⟨p.name, p.aliases, some (page p)⟩

/-- The Unicode encodings, and what is close to ASCII. -/
def common : List Entry :=
  [⟨"utf_7", ["u7", "utf7", "unicode_1_1_utf_7"], some utf7⟩,
   ⟨"utf_8", ["u8", "utf", "utf8", "utf8_ucs2", "utf8_ucs4", "cp65001"], some utf8⟩,
   ⟨"utf_8_sig", [], some utf8Marked⟩,
   ⟨"utf_16", ["u16", "utf16"], some utf16Marked⟩,
   ⟨"utf_16_be", ["unicodebigunmarked", "utf_16be"], some (utf16 .big)⟩,
   ⟨"utf_16_le", ["unicodelittleunmarked", "utf_16le"], some (utf16 .little)⟩,
   ⟨"utf_32", ["u32", "utf32"], some utf32Marked⟩,
   ⟨"utf_32_be", ["utf_32be"], some (utf32 .big)⟩,
   ⟨"utf_32_le", ["utf_32le"], some (utf32 .little)⟩,
   ⟨"ascii", ["646", "ansi_x3.4_1968", "ansi_x3_4_1968", "ansi_x3.4_1986", "cp367", "csascii",
      "ibm367", "iso646_us", "iso_646.irv_1991", "iso_ir_6", "us", "us_ascii"], some ascii⟩,
   ⟨"latin_1", ["8859", "cp819", "csisolatin1", "ibm819", "iso8859", "iso8859_1", "iso_8859_1",
      "iso_8859_1_1987", "iso_ir_100", "l1", "latin", "latin1"], some latin1⟩,
   ⟨"charmap", [], some latin1⟩,
   ⟨"undefined", [], some undefined⟩]

/-- Encodings with several bytes a character, or with escape sequences. -/
def multibyte : List Entry :=
  [⟨"gb2312", ["chinese", "csiso58gb231280", "euc_cn", "euccn", "eucgb2312_cn", "gb2312_1980",
      "gb2312_80", "iso_ir_58", "x_mac_simp_chinese"], some (chinese .gb2312)⟩,
   ⟨"gbk", ["936", "cp936", "ms936"], some (chinese .gbk)⟩,
   ⟨"gb18030", ["gb18030_2000"], some (chinese .gb18030)⟩,
   ⟨"hz", ["hzgb", "hz_gb", "hz_gb_2312"], some (chinese .hz)⟩,
   ⟨"big5", ["big5_tw", "csbig5", "x_mac_trad_chinese"], some (chinese .big5)⟩,
   ⟨"cp950", ["950", "ms950"], some (chinese .cp950)⟩,
   ⟨"big5hkscs", ["big5_hkscs", "hkscs"], some (chinese .hkscs)⟩,
   ⟨"euc_jp", ["eucjp", "ujis", "u_jis"], some (japanese .eucJp)⟩,
   ⟨"euc_jisx0213", ["eucjisx0213"], some (japanese (.eucJis false))⟩,
   ⟨"euc_jis_2004", ["jisx0213", "eucjis2004", "euc_jis2004"], some (japanese (.eucJis true))⟩,
   ⟨"shift_jis", ["csshiftjis", "shiftjis", "sjis", "s_jis", "x_mac_japanese"],
      some (japanese .shiftJis)⟩,
   ⟨"cp932", ["932", "ms932", "mskanji", "ms_kanji"], some (japanese .cp932)⟩,
   ⟨"shift_jisx0213", ["shiftjisx0213", "sjisx0213", "s_jisx0213"],
      some (japanese (.shiftJis0213 false))⟩,
   ⟨"shift_jis_2004", ["shiftjis2004", "sjis_2004", "s_jis_2004"],
      some (japanese (.shiftJis0213 true))⟩,
   ⟨"euc_kr", ["euckr", "korean", "ksc5601", "ks_c_5601", "ks_c_5601_1987", "ksx1001", "ks_x_1001",
      "x_mac_korean"], some (korean .eucKr)⟩,
   ⟨"cp949", ["949", "ms949", "uhc"], some (korean .cp949)⟩,
   ⟨"johab", ["cp1361", "ms1361"], some (korean .johab)⟩,
   ⟨"iso2022_jp", ["csiso2022jp", "iso2022jp", "iso_2022_jp"], some (iso2022 .jp)⟩,
   ⟨"iso2022_jp_1", ["iso2022jp_1", "iso_2022_jp_1"], some (iso2022 .jp1)⟩,
   ⟨"iso2022_jp_2", ["iso2022jp_2", "iso_2022_jp_2"], some (iso2022 .jp2)⟩,
   ⟨"iso2022_jp_3", ["iso2022jp_3", "iso_2022_jp_3"], some (iso2022 .jp3)⟩,
   ⟨"iso2022_jp_2004", ["iso_2022_jp_2004", "iso2022jp_2004"], some (iso2022 .jp2004)⟩,
   ⟨"iso2022_jp_ext", ["iso2022jp_ext", "iso_2022_jp_ext"], some (iso2022 .jpExt)⟩,
   ⟨"iso2022_kr", ["csiso2022kr", "iso2022kr", "iso_2022_kr"], some (iso2022 .kr)⟩,
   ⟨"unicode_escape", [], some escapes⟩,
   ⟨"raw_unicode_escape", [], some rawEscapes⟩,
   ⟨"punycode", [], some punycode⟩,
   ⟨"idna", [], some domainName⟩]

/-- What makes no text of bytes. -/
def textless : List Entry :=
  [⟨"base64_codec", ["base64", "base_64"], none⟩,
   ⟨"bz2_codec", ["bz2"], none⟩,
   ⟨"hex_codec", ["hex"], none⟩,
   ⟨"quopri_codec", ["quopri", "quoted_printable", "quotedprintable"], none⟩,
   ⟨"rot_13", ["rot13"], none⟩,
   ⟨"uu_codec", ["uu"], none⟩,
   ⟨"zlib_codec", ["zip", "zlib"], none⟩]

def entries : List Entry :=
  common ++ CodePage.all.map ofPage ++ multibyte ++ textless

/-- A name in lower case with an underscore between its parts, which are made of ASCII letters,
digits and points. -/
def plainName (name : Text) : Text :=
  List.intercalate ['_'] (Text.runs (fun c => !(c.isAlphanum || c == '.')) (name.map Char.toLower))

def hasAlias (plain : Text) (e : Entry) : Bool :=
  e.aliases.any (·.toList == plain)

/-- The encoding of the surroundings. -/
def ambient : Entry :=
  ⟨"locale", [], some utf8⟩

/-- What is meant by a name. Only in aliases may points stand for underscores. The encoding of the
surroundings must be asked for literally. -/
def find? (name : Text) : Option Entry :=
  if ambient.name.toList == name then some ambient
  else
    let plain := plainName name
    let undotted := plain.map fun c => if c = '.' then '_' else c
    (entries.find? (hasAlias plain)).or <|
      (entries.find? (hasAlias undotted)).or (entries.find? (·.name.toList == plain))

end MigrationScript.Encoding
