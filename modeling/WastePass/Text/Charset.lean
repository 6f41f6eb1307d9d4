import WastePass.Text.Charset.CodePage
import WastePass.Text.Utf16

/-!
# Charsets — which text some bytes are, and what says so

    A mark at the front of the bytes decides and is no part of the text. Without a mark
    the name that came with the bytes decides, and without a known name they are UTF-8.
    Decoding never fails: what writes no character becomes a replacement character.
-/

namespace WastePass.Text

/-- An encoding of texts as bytes. A code page has one byte to a character and lists those of
    the bytes from 128 on; they may also be a part of the private use area. Withheld bytes
    must not be read: any at all are a single gap. -/
inductive Charset where
  | utf8
  | utf16 (order : Utf16.Order)
  | codePage (upper : String)
  | privateUse
  | withheld
  deriving DecidableEq, Repr

namespace Charset

/-- The names of each charset, in lower case. -/
def labels : List (Charset × List String) :=
  [(.utf8,
    ["utf-8", "utf8", "unicode-1-1-utf-8", "unicode11utf8", "unicode20utf8",
     "x-unicode20utf8"]),
   (.utf16 .littleEndian,
    ["utf-16", "utf-16le", "csunicode", "iso-10646-ucs-2", "ucs-2", "unicode",
     "unicodefeff"]),
   (.utf16 .bigEndian, ["utf-16be", "unicodefffe"]),
   (.codePage CodePage.windows1252,
    ["windows-1252", "cp1252", "x-cp1252", "ascii", "us-ascii", "ansi_x3.4-1968", "cp819",
     "ibm819", "csisolatin1", "iso-8859-1", "iso8859-1", "iso88591", "iso_8859-1",
     "iso_8859-1:1987", "iso-ir-100", "l1", "latin1"]),
   (.codePage CodePage.iso8859Part2,
    ["iso-8859-2", "iso8859-2", "iso88592", "iso_8859-2", "iso_8859-2:1987", "csisolatin2",
     "iso-ir-101", "l2", "latin2"]),
   (.codePage CodePage.iso8859Part3,
    ["iso-8859-3", "iso8859-3", "iso88593", "iso_8859-3", "iso_8859-3:1988", "csisolatin3",
     "iso-ir-109", "l3", "latin3"]),
   (.codePage CodePage.iso8859Part4,
    ["iso-8859-4", "iso8859-4", "iso88594", "iso_8859-4", "iso_8859-4:1988", "csisolatin4",
     "iso-ir-110", "l4", "latin4"]),
   (.codePage CodePage.iso8859Part5,
    ["iso-8859-5", "iso8859-5", "iso88595", "iso_8859-5", "iso_8859-5:1988",
     "csisolatincyrillic", "cyrillic", "iso-ir-144"]),
   (.codePage CodePage.iso8859Part6,
    ["iso-8859-6", "iso-8859-6-e", "iso-8859-6-i", "iso8859-6", "iso88596", "iso_8859-6",
     "iso_8859-6:1987", "arabic", "asmo-708", "csiso88596e", "csiso88596i",
     "csisolatinarabic", "ecma-114", "iso-ir-127"]),
   (.codePage CodePage.iso8859Part7,
    ["iso-8859-7", "iso8859-7", "iso88597", "iso_8859-7", "iso_8859-7:1987",
     "csisolatingreek", "ecma-118", "elot_928", "greek", "greek8", "iso-ir-126",
     "sun_eu_greek"]),
   (.codePage CodePage.iso8859Part8,
    ["iso-8859-8", "iso-8859-8-e", "iso-8859-8-i", "iso8859-8", "iso88598", "iso_8859-8",
     "iso_8859-8:1988", "csiso88598e", "csiso88598i", "csisolatinhebrew", "hebrew",
     "iso-ir-138", "logical", "visual"]),
   (.codePage CodePage.iso8859Part10,
    ["iso-8859-10", "iso8859-10", "iso885910", "csisolatin6", "iso-ir-157", "l6",
     "latin6"]),
   (.codePage CodePage.iso8859Part13, ["iso-8859-13", "iso8859-13", "iso885913"]),
   (.codePage CodePage.iso8859Part14, ["iso-8859-14", "iso8859-14", "iso885914"]),
   (.codePage CodePage.iso8859Part15,
    ["iso-8859-15", "iso8859-15", "iso885915", "iso_8859-15", "csisolatin9", "l9"]),
   (.codePage CodePage.iso8859Part16, ["iso-8859-16"]),
   (.codePage CodePage.ibm866, ["ibm866", "cp866", "csibm866", "866"]),
   (.codePage CodePage.koi8r, ["koi8-r", "koi8_r", "koi8", "koi", "cskoi8r"]),
   (.codePage CodePage.koi8u, ["koi8-u", "koi8-ru"]),
   (.codePage CodePage.macintosh, ["macintosh", "mac", "csmacintosh", "x-mac-roman"]),
   (.codePage CodePage.macCyrillic, ["x-mac-cyrillic", "x-mac-ukrainian"]),
   (.codePage CodePage.windows874,
    ["windows-874", "dos-874", "iso-8859-11", "iso8859-11", "iso885911", "tis-620"]),
   (.codePage CodePage.windows1250, ["windows-1250", "cp1250", "x-cp1250"]),
   (.codePage CodePage.windows1251, ["windows-1251", "cp1251", "x-cp1251"]),
   (.codePage CodePage.windows1253, ["windows-1253", "cp1253", "x-cp1253"]),
   (.codePage CodePage.windows1254,
    ["windows-1254", "cp1254", "x-cp1254", "csisolatin5", "iso-8859-9", "iso8859-9",
     "iso88599", "iso_8859-9", "iso_8859-9:1989", "iso-ir-148", "l5", "latin5"]),
   (.codePage CodePage.windows1255, ["windows-1255", "cp1255", "x-cp1255"]),
   (.codePage CodePage.windows1256, ["windows-1256", "cp1256", "x-cp1256"]),
   (.codePage CodePage.windows1257, ["windows-1257", "cp1257", "x-cp1257"]),
   (.codePage CodePage.windows1258, ["windows-1258", "cp1258", "x-cp1258"]),
   (.privateUse, ["x-user-defined"]),
   (.withheld,
    ["replacement", "csiso2022kr", "hz-gb-2312", "iso-2022-cn", "iso-2022-cn-ext",
     "iso-2022-kr"])]

/-- The blanks that may stand around a name. -/
def isPadding (c : Char) : Bool :=
  c = ' ' || c = '\t' || c = '\n' || c = '\x0c' || c = '\r'

/-- A name without the padding around it and in lower case. -/
def normalised (label : String) : String :=
  String.ofList
    ((((label.toList.dropWhile isPadding).reverse.dropWhile isPadding).reverse).map
      Char.toLower)

/-- The charset of a name, if the name is known. -/
def ofLabel? (label : String) : Option Charset :=
  (labels.find? fun entry => entry.2.contains (normalised label)).map (·.1)

/-- The character of one byte in a page with this upper half. -/
def pageChar (upper : List Char) (b : UInt8) : Char :=
  if b.toNat < 128 then Char.ofNat b.toNat
  else (upper[b.toNat - 128]?).getD Utf8.replacement

/-- The character of one byte where the private use area is the upper half. -/
def privateChar (b : UInt8) : Char :=
  if b.toNat < 128 then Char.ofNat b.toNat else Char.ofNat (0xF780 + (b.toNat - 128))

/-- The text that bytes are in a charset. -/
def read (charset : Charset) (bytes : Bytes) : String :=
  match charset with
  | .utf8 => Utf8.lenient bytes
  | .utf16 order => Utf16.lenient order bytes
  | .codePage upper => String.ofList (bytes.map (pageChar upper.toList))
  | .privateUse => String.ofList (bytes.map privateChar)
  | .withheld => if bytes.isEmpty then "" else String.ofList [Utf8.replacement]

/-- The charset that a mark at the front of the bytes tells, and the bytes behind it. -/
def marked? : Bytes → Option (Charset × Bytes)
  | 0xEF :: 0xBB :: 0xBF :: bytes => some (.utf8, bytes)
  | 0xFF :: 0xFE :: bytes => some (.utf16 .littleEndian, bytes)
  | 0xFE :: 0xFF :: bytes => some (.utf16 .bigEndian, bytes)
  | _ => none

/-- The text that bytes are when they came with a charset, or without one. -/
def decode (named : Option Charset) (bytes : Bytes) : String :=
  match marked? bytes with
  | some (charset, rest) => charset.read rest
  | none => (named.getD .utf8).read bytes

end Charset

end WastePass.Text
