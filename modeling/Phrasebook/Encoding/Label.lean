import Phrasebook.Encoding.CodePage
import Phrasebook.Text.Lowercase
import Phrasebook.Text.Space

/-! # Encodings and their labels

Every encoding has one name and any number of labels that people write for it. The list of labels is
that of the Encoding Standard.
-/

namespace Phrasebook

/-- The eight-bit encodings of East Asia. They are known by label; of their text only the ASCII part
    can be read. -/
inductive Encoding.EastAsian where
  | gbk
  | gb18030
  | big5
  | eucJp
  | shiftJis
  | eucKr
  deriving Repr, DecidableEq

/-- A way of writing text as bytes. -/
inductive Encoding where
  | utf8
  | utf16le
  | utf16be
  | page (page : Encoding.CodePage)
  | iso2022Jp
  | eastAsian (encoding : Encoding.EastAsian)
  /-- Bytes from 128 up stand for private-use characters. -/
  | userDefined
  /-- No text at all: the labels of encodings that must not be decoded. -/
  | replacement
  deriving Repr, DecidableEq

namespace Encoding

def EastAsian.name : EastAsian → String
  | .gbk => "GBK"
  | .gb18030 => "gb18030"
  | .big5 => "Big5"
  | .eucJp => "EUC-JP"
  | .shiftJis => "Shift_JIS"
  | .eucKr => "EUC-KR"

def name : Encoding → String
  | .utf8 => "UTF-8"
  | .utf16le => "UTF-16LE"
  | .utf16be => "UTF-16BE"
  | .page p => p.name
  | .iso2022Jp => "ISO-2022-JP"
  | .eastAsian e => e.name
  | .userDefined => "x-user-defined"
  | .replacement => "replacement"

/-- The name of an encoding in lower case, as answers give it. -/
def plainName (encoding : Encoding) : String :=
  Text.lowerAscii encoding.name

/-- The labels of every encoding, in lower case. -/
def labels : List (Encoding × List String) :=
  [ ( .utf8, ["unicode-1-1-utf-8", "unicode11utf8", "unicode20utf8", "utf-8", "utf8",
        "x-unicode20utf8"] ),
    ( .page .ibm866, ["866", "cp866", "csibm866", "ibm866"] ),
    ( .page .iso8859p2, ["csisolatin2", "iso-8859-2", "iso-ir-101", "iso8859-2", "iso88592",
        "iso_8859-2", "iso_8859-2:1987", "l2", "latin2"] ),
    ( .page .iso8859p3, ["csisolatin3", "iso-8859-3", "iso-ir-109", "iso8859-3", "iso88593",
        "iso_8859-3", "iso_8859-3:1988", "l3", "latin3"] ),
    ( .page .iso8859p4, ["csisolatin4", "iso-8859-4", "iso-ir-110", "iso8859-4", "iso88594",
        "iso_8859-4", "iso_8859-4:1988", "l4", "latin4"] ),
    ( .page .iso8859p5, ["csisolatincyrillic", "cyrillic", "iso-8859-5", "iso-ir-144",
        "iso8859-5", "iso88595", "iso_8859-5", "iso_8859-5:1988"] ),
    ( .page .iso8859p6, ["arabic", "asmo-708", "csiso88596e", "csiso88596i", "csisolatinarabic",
        "ecma-114", "iso-8859-6", "iso-8859-6-e", "iso-8859-6-i", "iso-ir-127", "iso8859-6",
        "iso88596", "iso_8859-6", "iso_8859-6:1987"] ),
    ( .page .iso8859p7, ["csisolatingreek", "ecma-118", "elot_928", "greek", "greek8",
        "iso-8859-7", "iso-ir-126", "iso8859-7", "iso88597", "iso_8859-7", "iso_8859-7:1987",
        "sun_eu_greek"] ),
    ( .page .iso8859p8, ["csiso88598e", "csisolatinhebrew", "hebrew", "iso-8859-8",
        "iso-8859-8-e", "iso-ir-138", "iso8859-8", "iso88598", "iso_8859-8", "iso_8859-8:1988",
        "visual"] ),
    ( .page .iso8859p8i, ["csiso88598i", "iso-8859-8-i", "logical"] ),
    ( .page .iso8859p10, ["csisolatin6", "iso-8859-10", "iso-ir-157", "iso8859-10", "iso885910",
        "l6", "latin6"] ),
    ( .page .iso8859p13, ["iso-8859-13", "iso8859-13", "iso885913"] ),
    ( .page .iso8859p14, ["iso-8859-14", "iso8859-14", "iso885914"] ),
    ( .page .iso8859p15, ["csisolatin9", "iso-8859-15", "iso8859-15", "iso885915", "iso_8859-15",
        "l9"] ),
    ( .page .iso8859p16, ["iso-8859-16"] ),
    ( .page .koi8r, ["cskoi8r", "koi", "koi8", "koi8-r", "koi8_r"] ),
    ( .page .koi8u, ["koi8-ru", "koi8-u"] ),
    ( .page .macintosh, ["csmacintosh", "mac", "macintosh", "x-mac-roman"] ),
    ( .page .windows874, ["dos-874", "iso-8859-11", "iso8859-11", "iso885911", "tis-620",
        "windows-874"] ),
    ( .page .windows1250, ["cp1250", "windows-1250", "x-cp1250"] ),
    ( .page .windows1251, ["cp1251", "windows-1251", "x-cp1251"] ),
    ( .page .windows1252, ["ansi_x3.4-1968", "ascii", "cp1252", "cp819", "csisolatin1", "ibm819",
        "iso-8859-1", "iso-ir-100", "iso8859-1", "iso88591", "iso_8859-1", "iso_8859-1:1987",
        "l1", "latin1", "us-ascii", "windows-1252", "x-cp1252"] ),
    ( .page .windows1253, ["cp1253", "windows-1253", "x-cp1253"] ),
    ( .page .windows1254, ["cp1254", "csisolatin5", "iso-8859-9", "iso-ir-148", "iso8859-9",
        "iso88599", "iso_8859-9", "iso_8859-9:1989", "l5", "latin5", "windows-1254", "x-cp1254"] ),
    ( .page .windows1255, ["cp1255", "windows-1255", "x-cp1255"] ),
    ( .page .windows1256, ["cp1256", "windows-1256", "x-cp1256"] ),
    ( .page .windows1257, ["cp1257", "windows-1257", "x-cp1257"] ),
    ( .page .windows1258, ["cp1258", "windows-1258", "x-cp1258"] ),
    ( .page .macCyrillic, ["x-mac-cyrillic", "x-mac-ukrainian"] ),
    ( .eastAsian .gbk, ["chinese", "csgb2312", "csiso58gb231280", "gb2312", "gb_2312",
        "gb_2312-80", "gbk", "iso-ir-58", "x-gbk"] ),
    ( .eastAsian .gb18030, ["gb18030"] ),
    ( .eastAsian .big5, ["big5", "big5-hkscs", "cn-big5", "csbig5", "x-x-big5"] ),
    ( .eastAsian .eucJp, ["cseucpkdfmtjapanese", "euc-jp", "x-euc-jp"] ),
    ( .iso2022Jp, ["csiso2022jp", "iso-2022-jp"] ),
    ( .eastAsian .shiftJis, ["csshiftjis", "ms932", "ms_kanji", "shift-jis", "shift_jis", "sjis",
        "windows-31j", "x-sjis"] ),
    ( .eastAsian .eucKr, ["cseuckr", "csksc56011987", "euc-kr", "iso-ir-149", "korean",
        "ks_c_5601-1987", "ks_c_5601-1989", "ksc5601", "ksc_5601", "windows-949"] ),
    ( .replacement, ["csiso2022kr", "hz-gb-2312", "iso-2022-cn", "iso-2022-cn-ext", "iso-2022-kr",
        "replacement"] ),
    ( .utf16be, ["unicodefffe", "utf-16be"] ),
    ( .utf16le, ["csunicode", "iso-10646-ucs-2", "ucs-2", "unicode", "unicodefeff", "utf-16",
        "utf-16le"] ),
    ( .userDefined, ["x-user-defined"] ) ]

/-- The encoding that a label stands for, in any ASCII case. -/
def ofLabel? (label : String) : Option Encoding :=
  (labels.find? fun row => row.2.contains (Text.lowerAscii label)).map Prod.fst

/-- The label of UTF-8 that starts with a byte order mark. It is not in the standard's list. -/
def signedUtf8 : String := "utf-8-sig"

/-- The encoding that a given label stands for; signed UTF-8 is read as UTF-8. -/
def resolve? (label : String) : Option Encoding :=
  if Text.lowerAscii label = signedUtf8 then some .utf8 else ofLabel? label

end Encoding
end Phrasebook
