import ProbeReport.Text.Search
import ProbeReport.Text.SingleByte
import ProbeReport.Text.Utf16
import ProbeReport.Text.Utf8

namespace ProbeReport.Text

-- Encodings that are read with tables of their own.
inductive Legacy where
  | ibm866 | iso8859_2 | iso8859_3 | iso8859_4 | iso8859_5 | iso8859_6 | iso8859_7 | iso8859_8
  | iso8859_8i | iso8859_10 | iso8859_13 | iso8859_14 | iso8859_15 | iso8859_16 | koi8r | koi8u
  | macintosh | windows874 | windows1250 | windows1251 | windows1253 | windows1254 | windows1255
  | windows1256 | windows1257 | windows1258 | macCyrillic | gbk | gb18030 | big5 | eucJp
  | iso2022Jp | shiftJis | eucKr
  deriving Repr, DecidableEq

-- The tables of these encodings.
class Decoders where
  decode : Legacy → List UInt8 → List Char

inductive Charset where
  | utf8
  | utf16 (order : Utf16.Order)
  | windows1252
  | userDefined
  -- Encodings that are unsafe to read; a text in one of them is a single replacement.
  | replacement
  | legacy (encoding : Legacy)
  deriving Repr, DecidableEq

namespace Charset

-- The labels of all encodings, the shorter ones first.
def labels : List (String × Charset) :=
  [("l1", .windows1252), ("l2", .legacy .iso8859_2), ("l3", .legacy .iso8859_3),
    ("l4", .legacy .iso8859_4), ("l5", .legacy .windows1254), ("l6", .legacy .iso8859_10),
    ("l9", .legacy .iso8859_15), ("866", .legacy .ibm866), ("gbk", .legacy .gbk),
    ("koi", .legacy .koi8r), ("mac", .legacy .macintosh), ("big5", .legacy .big5),
    ("koi8", .legacy .koi8r), ("sjis", .legacy .shiftJis), ("utf8", .utf8),
    ("ascii", .windows1252), ("cp819", .windows1252), ("cp866", .legacy .ibm866),
    ("greek", .legacy .iso8859_7), ("ms932", .legacy .shiftJis), ("ucs-2", .utf16 .little),
    ("utf-8", .utf8), ("x-gbk", .legacy .gbk), ("arabic", .legacy .iso8859_6),
    ("cp1250", .legacy .windows1250), ("cp1251", .legacy .windows1251), ("cp1252", .windows1252),
    ("cp1253", .legacy .windows1253), ("cp1254", .legacy .windows1254),
    ("cp1255", .legacy .windows1255), ("cp1256", .legacy .windows1256),
    ("cp1257", .legacy .windows1257), ("cp1258", .legacy .windows1258),
    ("csbig5", .legacy .big5), ("euc-jp", .legacy .eucJp), ("euc-kr", .legacy .eucKr),
    ("gb2312", .legacy .gbk), ("greek8", .legacy .iso8859_7), ("hebrew", .legacy .iso8859_8),
    ("ibm819", .windows1252), ("ibm866", .legacy .ibm866), ("koi8-r", .legacy .koi8r),
    ("koi8-u", .legacy .koi8u), ("koi8_r", .legacy .koi8r), ("korean", .legacy .eucKr),
    ("latin1", .windows1252), ("latin2", .legacy .iso8859_2), ("latin3", .legacy .iso8859_3),
    ("latin4", .legacy .iso8859_4), ("latin5", .legacy .windows1254),
    ("latin6", .legacy .iso8859_10), ("utf-16", .utf16 .little), ("visual", .legacy .iso8859_8),
    ("x-sjis", .legacy .shiftJis), ("chinese", .legacy .gbk), ("cn-big5", .legacy .big5),
    ("cseuckr", .legacy .eucKr), ("cskoi8r", .legacy .koi8r), ("dos-874", .legacy .windows874),
    ("gb18030", .legacy .gb18030), ("gb_2312", .legacy .gbk), ("koi8-ru", .legacy .koi8u),
    ("ksc5601", .legacy .eucKr), ("logical", .legacy .iso8859_8i),
    ("tis-620", .legacy .windows874), ("unicode", .utf16 .little),
    ("asmo-708", .legacy .iso8859_6), ("csgb2312", .legacy .gbk), ("csibm866", .legacy .ibm866),
    ("cyrillic", .legacy .iso8859_5), ("ecma-114", .legacy .iso8859_6),
    ("ecma-118", .legacy .iso8859_7), ("elot_928", .legacy .iso8859_7),
    ("iso88591", .windows1252), ("iso88592", .legacy .iso8859_2),
    ("iso88593", .legacy .iso8859_3), ("iso88594", .legacy .iso8859_4),
    ("iso88595", .legacy .iso8859_5), ("iso88596", .legacy .iso8859_6),
    ("iso88597", .legacy .iso8859_7), ("iso88598", .legacy .iso8859_8),
    ("iso88599", .legacy .windows1254), ("ksc_5601", .legacy .eucKr),
    ("ms_kanji", .legacy .shiftJis), ("us-ascii", .windows1252), ("utf-16be", .utf16 .big),
    ("utf-16le", .utf16 .little), ("x-cp1250", .legacy .windows1250),
    ("x-cp1251", .legacy .windows1251), ("x-cp1252", .windows1252),
    ("x-cp1253", .legacy .windows1253), ("x-cp1254", .legacy .windows1254),
    ("x-cp1255", .legacy .windows1255), ("x-cp1256", .legacy .windows1256),
    ("x-cp1257", .legacy .windows1257), ("x-cp1258", .legacy .windows1258),
    ("x-euc-jp", .legacy .eucJp), ("x-x-big5", .legacy .big5), ("csunicode", .utf16 .little),
    ("iso-ir-58", .legacy .gbk), ("iso8859-1", .windows1252), ("iso8859-2", .legacy .iso8859_2),
    ("iso8859-3", .legacy .iso8859_3), ("iso8859-4", .legacy .iso8859_4),
    ("iso8859-5", .legacy .iso8859_5), ("iso8859-6", .legacy .iso8859_6),
    ("iso8859-7", .legacy .iso8859_7), ("iso8859-8", .legacy .iso8859_8),
    ("iso8859-9", .legacy .windows1254), ("iso885910", .legacy .iso8859_10),
    ("iso885911", .legacy .windows874), ("iso885913", .legacy .iso8859_13),
    ("iso885914", .legacy .iso8859_14), ("iso885915", .legacy .iso8859_15),
    ("macintosh", .legacy .macintosh), ("shift-jis", .legacy .shiftJis),
    ("shift_jis", .legacy .shiftJis), ("big5-hkscs", .legacy .big5),
    ("csshiftjis", .legacy .shiftJis), ("gb_2312-80", .legacy .gbk),
    ("hz-gb-2312", .replacement), ("iso-8859-1", .windows1252),
    ("iso-8859-2", .legacy .iso8859_2), ("iso-8859-3", .legacy .iso8859_3),
    ("iso-8859-4", .legacy .iso8859_4), ("iso-8859-5", .legacy .iso8859_5),
    ("iso-8859-6", .legacy .iso8859_6), ("iso-8859-7", .legacy .iso8859_7),
    ("iso-8859-8", .legacy .iso8859_8), ("iso-8859-9", .legacy .windows1254),
    ("iso-ir-100", .windows1252), ("iso-ir-101", .legacy .iso8859_2),
    ("iso-ir-109", .legacy .iso8859_3), ("iso-ir-110", .legacy .iso8859_4),
    ("iso-ir-126", .legacy .iso8859_7), ("iso-ir-127", .legacy .iso8859_6),
    ("iso-ir-138", .legacy .iso8859_8), ("iso-ir-144", .legacy .iso8859_5),
    ("iso-ir-148", .legacy .windows1254), ("iso-ir-149", .legacy .eucKr),
    ("iso-ir-157", .legacy .iso8859_10), ("iso8859-10", .legacy .iso8859_10),
    ("iso8859-11", .legacy .windows874), ("iso8859-13", .legacy .iso8859_13),
    ("iso8859-14", .legacy .iso8859_14), ("iso8859-15", .legacy .iso8859_15),
    ("iso_8859-1", .windows1252), ("iso_8859-2", .legacy .iso8859_2),
    ("iso_8859-3", .legacy .iso8859_3), ("iso_8859-4", .legacy .iso8859_4),
    ("iso_8859-5", .legacy .iso8859_5), ("iso_8859-6", .legacy .iso8859_6),
    ("iso_8859-7", .legacy .iso8859_7), ("iso_8859-8", .legacy .iso8859_8),
    ("iso_8859-9", .legacy .windows1254), ("csiso2022jp", .legacy .iso2022Jp),
    ("csiso2022kr", .replacement), ("csiso88596e", .legacy .iso8859_6),
    ("csiso88596i", .legacy .iso8859_6), ("csiso88598e", .legacy .iso8859_8),
    ("csiso88598i", .legacy .iso8859_8i), ("csisolatin1", .windows1252),
    ("csisolatin2", .legacy .iso8859_2), ("csisolatin3", .legacy .iso8859_3),
    ("csisolatin4", .legacy .iso8859_4), ("csisolatin5", .legacy .windows1254),
    ("csisolatin6", .legacy .iso8859_10), ("csisolatin9", .legacy .iso8859_15),
    ("csmacintosh", .legacy .macintosh), ("iso-2022-cn", .replacement),
    ("iso-2022-jp", .legacy .iso2022Jp), ("iso-2022-kr", .replacement),
    ("iso-8859-10", .legacy .iso8859_10), ("iso-8859-11", .legacy .windows874),
    ("iso-8859-13", .legacy .iso8859_13), ("iso-8859-14", .legacy .iso8859_14),
    ("iso-8859-15", .legacy .iso8859_15), ("iso-8859-16", .legacy .iso8859_16),
    ("iso_8859-15", .legacy .iso8859_15), ("replacement", .replacement),
    ("unicodefeff", .utf16 .little), ("unicodefffe", .utf16 .big),
    ("windows-31j", .legacy .shiftJis), ("windows-874", .legacy .windows874),
    ("windows-949", .legacy .eucKr), ("x-mac-roman", .legacy .macintosh),
    ("iso-8859-6-e", .legacy .iso8859_6), ("iso-8859-6-i", .legacy .iso8859_6),
    ("iso-8859-8-e", .legacy .iso8859_8), ("iso-8859-8-i", .legacy .iso8859_8i),
    ("sun_eu_greek", .legacy .iso8859_7), ("windows-1250", .legacy .windows1250),
    ("windows-1251", .legacy .windows1251), ("windows-1252", .windows1252),
    ("windows-1253", .legacy .windows1253), ("windows-1254", .legacy .windows1254),
    ("windows-1255", .legacy .windows1255), ("windows-1256", .legacy .windows1256),
    ("windows-1257", .legacy .windows1257), ("windows-1258", .legacy .windows1258),
    ("csksc56011987", .legacy .eucKr), ("unicode11utf8", .utf8), ("unicode20utf8", .utf8),
    ("ansi_x3.4-1968", .windows1252), ("ks_c_5601-1987", .legacy .eucKr),
    ("ks_c_5601-1989", .legacy .eucKr), ("x-mac-cyrillic", .legacy .macCyrillic),
    ("x-user-defined", .userDefined), ("csiso58gb231280", .legacy .gbk),
    ("csisolatingreek", .legacy .iso8859_7), ("iso-10646-ucs-2", .utf16 .little),
    ("iso-2022-cn-ext", .replacement), ("iso_8859-1:1987", .windows1252),
    ("iso_8859-2:1987", .legacy .iso8859_2), ("iso_8859-3:1988", .legacy .iso8859_3),
    ("iso_8859-4:1988", .legacy .iso8859_4), ("iso_8859-5:1988", .legacy .iso8859_5),
    ("iso_8859-6:1987", .legacy .iso8859_6), ("iso_8859-7:1987", .legacy .iso8859_7),
    ("iso_8859-8:1988", .legacy .iso8859_8), ("iso_8859-9:1989", .legacy .windows1254),
    ("x-mac-ukrainian", .legacy .macCyrillic), ("x-unicode20utf8", .utf8),
    ("csisolatinarabic", .legacy .iso8859_6), ("csisolatinhebrew", .legacy .iso8859_8),
    ("unicode-1-1-utf-8", .utf8), ("csisolatincyrillic", .legacy .iso8859_5),
    ("cseucpkdfmtjapanese", .legacy .eucJp)]

def isLabelBlank (c : Char) : Bool :=
  c = ' ' || c = '\t' || c = '\n' || c = '\x0c' || c = '\r'

-- Looks up a label, whatever its case and the blanks around it.
def ofLabel? (label : String) : Option Charset :=
  labels.lookup (String.ofList ((trim isLabelBlank label.toList).map Char.toLower))

-- The encoding that a byte order mark names, and what follows the mark.
def ofMark? : List UInt8 → Option (Charset × List UInt8)
  | 0xef :: 0xbb :: 0xbf :: rest => some (.utf8, rest)
  | 0xff :: 0xfe :: rest => some (.utf16 .little, rest)
  | 0xfe :: 0xff :: rest => some (.utf16 .big, rest)
  | _ => none

def decode [Decoders] (charset : Charset) (bytes : List UInt8) : List Char :=
  match charset with
  | .utf8 => Utf8.decodeLossy bytes
  | .utf16 order => Utf16.decodeLossy order bytes
  | .windows1252 => bytes.map SingleByte.windows1252
  | .userDefined => bytes.map SingleByte.userDefined
  | .replacement => if bytes.isEmpty then [] else ['\ufffd']
  | .legacy encoding => Decoders.decode encoding bytes

-- A byte order mark knows better than what was declared, and is not part of the text.
def decodeMarked [Decoders] (declared : Charset) (bytes : List UInt8) : String :=
  String.ofList <|
    match ofMark? bytes with
    | some (charset, rest) => charset.decode rest
    | none => declared.decode bytes

end Charset

end ProbeReport.Text
