import LoadTest.Text.Charset.Big5
import LoadTest.Text.Charset.EucJp
import LoadTest.Text.Charset.EucKr
import LoadTest.Text.Charset.Gb18030
import LoadTest.Text.Charset.Iso2022Jp
import LoadTest.Text.Charset.ShiftJis
import LoadTest.Text.Charset.SingleByte
import LoadTest.Text.Charset.Utf16

/-!
# Character sets

How the bytes of a text are read. A mark at the front of the bytes goes before what a sender says
about them. Bytes that stand for nothing are read as the replacement character.
-/

namespace LoadTest

/-- How the bytes of a text are to be read. -/
inductive Charset where
  | utf8
  | utf16 (bigEndian : Bool)
  /-- One byte a character; the text has the characters from `0x80` on. -/
  | singleByte (upper : String)
  | gb18030
  | big5
  | eucJp
  | iso2022Jp
  | shiftJis
  | eucKr
  /-- Bytes beyond ASCII are characters for private use. -/
  | userDefined
  /-- Sets that are not read at all, as their bytes could hide ASCII. -/
  | unread

namespace Charset

/-- The names of each set, in small letters. -/
def labels : List (List String × Charset) :=
  [(["unicode-1-1-utf-8", "utf-8", "utf8", "unicode11utf8", "unicode20utf8", "x-unicode20utf8"],
     .utf8),
   (["utf-16", "utf-16le", "csunicode", "iso-10646-ucs-2", "ucs-2", "unicode", "unicodefeff"],
     .utf16 false),
   (["utf-16be", "unicodefffe"], .utf16 true),
   (["866", "cp866", "csibm866", "ibm866"], .singleByte SingleByte.ibm866),
   (["csisolatin2", "iso-8859-2", "iso-ir-101", "iso8859-2", "iso88592", "iso_8859-2",
     "iso_8859-2:1987", "l2", "latin2"], .singleByte SingleByte.latin2),
   (["csisolatin3", "iso-8859-3", "iso-ir-109", "iso8859-3", "iso88593", "iso_8859-3",
     "iso_8859-3:1988", "l3", "latin3"], .singleByte SingleByte.latin3),
   (["csisolatin4", "iso-8859-4", "iso-ir-110", "iso8859-4", "iso88594", "iso_8859-4",
     "iso_8859-4:1988", "l4", "latin4"], .singleByte SingleByte.latin4),
   (["csisolatincyrillic", "cyrillic", "iso-8859-5", "iso-ir-144", "iso8859-5", "iso88595",
     "iso_8859-5", "iso_8859-5:1988"], .singleByte SingleByte.isoCyrillic),
   (["arabic", "asmo-708", "csiso88596e", "csiso88596i", "csisolatinarabic", "ecma-114",
     "iso-8859-6", "iso-8859-6-e", "iso-8859-6-i", "iso-ir-127", "iso8859-6", "iso88596",
     "iso_8859-6", "iso_8859-6:1987"], .singleByte SingleByte.isoArabic),
   (["csisolatingreek", "ecma-118", "elot_928", "greek", "greek8", "iso-8859-7", "iso-ir-126",
     "iso8859-7", "iso88597", "iso_8859-7", "iso_8859-7:1987", "sun_eu_greek"],
     .singleByte SingleByte.isoGreek),
   (["csiso88598e", "csisolatinhebrew", "hebrew", "iso-8859-8", "iso-8859-8-e", "iso-ir-138",
     "iso8859-8", "iso88598", "iso_8859-8", "iso_8859-8:1988", "visual", "csiso88598i",
     "iso-8859-8-i", "logical"], .singleByte SingleByte.isoHebrew),
   (["csisolatin6", "iso-8859-10", "iso-ir-157", "iso8859-10", "iso885910", "l6", "latin6"],
     .singleByte SingleByte.latin6),
   (["iso-8859-13", "iso8859-13", "iso885913"], .singleByte SingleByte.latin7),
   (["iso-8859-14", "iso8859-14", "iso885914"], .singleByte SingleByte.latin8),
   (["csisolatin9", "iso-8859-15", "iso8859-15", "iso885915", "iso_8859-15", "l9"],
     .singleByte SingleByte.latin9),
   (["iso-8859-16"], .singleByte SingleByte.latin10),
   (["cskoi8r", "koi", "koi8", "koi8-r", "koi8_r"], .singleByte SingleByte.koi8r),
   (["koi8-u", "koi8-ru"], .singleByte SingleByte.koi8u),
   (["csmacintosh", "mac", "macintosh", "x-mac-roman"], .singleByte SingleByte.macRoman),
   (["dos-874", "iso-8859-11", "iso8859-11", "iso885911", "tis-620", "windows-874"],
     .singleByte SingleByte.windows874),
   (["cp1250", "windows-1250", "x-cp1250"], .singleByte SingleByte.windows1250),
   (["cp1251", "windows-1251", "x-cp1251"], .singleByte SingleByte.windows1251),
   (["ansi_x3.4-1968", "ascii", "cp1252", "cp819", "csisolatin1", "ibm819", "iso-8859-1",
     "iso-ir-100", "iso8859-1", "iso88591", "iso_8859-1", "iso_8859-1:1987", "l1", "latin1",
     "us-ascii", "windows-1252", "x-cp1252"], .singleByte SingleByte.windows1252),
   (["cp1253", "windows-1253", "x-cp1253"], .singleByte SingleByte.windows1253),
   (["cp1254", "csisolatin5", "iso-8859-9", "iso-ir-148", "iso8859-9", "iso88599", "iso_8859-9",
     "iso_8859-9:1989", "l5", "latin5", "windows-1254", "x-cp1254"],
     .singleByte SingleByte.windows1254),
   (["cp1255", "windows-1255", "x-cp1255"], .singleByte SingleByte.windows1255),
   (["cp1256", "windows-1256", "x-cp1256"], .singleByte SingleByte.windows1256),
   (["cp1257", "windows-1257", "x-cp1257"], .singleByte SingleByte.windows1257),
   (["cp1258", "windows-1258", "x-cp1258"], .singleByte SingleByte.windows1258),
   (["x-mac-cyrillic", "x-mac-ukrainian"], .singleByte SingleByte.macCyrillic),
   (["chinese", "csgb2312", "csiso58gb231280", "gb2312", "gb_2312", "gb_2312-80", "gbk",
     "iso-ir-58", "x-gbk", "gb18030"], .gb18030),
   (["big5", "big5-hkscs", "cn-big5", "csbig5", "x-x-big5"], .big5),
   (["cseucpkdfmtjapanese", "euc-jp", "x-euc-jp"], .eucJp),
   (["csiso2022jp", "iso-2022-jp"], .iso2022Jp),
   (["csshiftjis", "ms_kanji", "shift-jis", "shift_jis", "sjis", "windows-31j", "x-sjis", "ms932"],
     .shiftJis),
   (["cseuckr", "csksc56011987", "euc-kr", "iso-ir-149", "korean", "ks_c_5601-1987",
     "ks_c_5601-1989", "ksc5601", "ksc_5601", "windows-949"], .eucKr),
   (["x-user-defined"], .userDefined),
   (["csiso2022kr", "hz-gb-2312", "iso-2022-cn", "iso-2022-cn-ext", "iso-2022-kr", "replacement"],
     .unread)]

/-- Blanks around a name do not count. -/
def isPadding (c : Char) : Bool :=
  c = ' ' || c = '\t' || c = '\n' || c = '\r' || c = '\x0c'

/-- The character set of that name. -/
def ofLabel? (label : List Char) : Option Charset :=
  let name := ((label.dropWhile isPadding).reverse.dropWhile isPadding).reverse.map Char.toLower
  (labels.find? fun entry => entry.1.contains (String.ofList name)).map Prod.snd

/-- The character of a byte, beyond ASCII one for private use. -/
def userDefinedChar (byte : UInt8) : Char :=
  if byte.toNat < 0x80 then Char.ofNat byte.toNat
  else Char.ofNat (0xF780 + (byte.toNat - 0x80))

/-- The text of bytes of this character set, a mark at their front included. -/
def decode (charset : Charset) (bytes : List UInt8) : String :=
  match charset with
  | .utf8 =>
    match String.fromUTF8? ⟨bytes.toArray⟩ with
    | some s => s
    | none => String.ofList (Utf8.decode bytes)
  | .utf16 bigEndian => String.ofList (Utf16.decode bigEndian bytes)
  | .singleByte upper => String.ofList (SingleByte.decode upper bytes)
  | .gb18030 => String.ofList (Gb18030.decode bytes)
  | .big5 => String.ofList (Big5.set.decode bytes)
  | .eucJp => String.ofList (EucJp.decode bytes)
  | .iso2022Jp => String.ofList (Iso2022Jp.decode bytes)
  | .shiftJis => String.ofList (ShiftJis.set.decode bytes)
  | .eucKr => String.ofList (EucKr.set.decode bytes)
  | .userDefined => String.ofList (bytes.map userDefinedChar)
  | .unread => if bytes.isEmpty then "" else String.singleton replacementChar

/-- The text that bytes hold, if they are said to be of this character set. -/
def text (declared : Charset) (bytes : List UInt8) : String :=
  match bytes with
  | 0xEF :: 0xBB :: 0xBF :: rest => decode .utf8 rest
  | 0xFF :: 0xFE :: rest => decode (.utf16 false) rest
  | 0xFE :: 0xFF :: rest => decode (.utf16 true) rest
  | bytes => decode declared bytes

end Charset

end LoadTest
