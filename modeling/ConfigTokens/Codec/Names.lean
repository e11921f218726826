import ConfigTokens.Codec.TableDos
import ConfigTokens.Codec.TableIso
import ConfigTokens.Codec.TableVendor
import ConfigTokens.Codec.TableWindows
import ConfigTokens.Codec.Unicode
/-!
# Names of encodings

An encoding has several names. A name is normalised before it is looked up: letters become lower case,
and each run of other characters between letters and digits becomes one underscore, except that a full
stop stays. `Encoding.lookup` also tries the name with underscores for full stops.
-/

namespace ConfigTokens.Codec

/-- An encoding of text. -/
inductive Encoding where
  | utf8
  | utf8Signed
  | utf16
  | utf16In (order : ByteOrder)
  | utf32
  | utf32In (order : ByteOrder)
  | ascii
  | latin1
  /-- One character a byte; bytes below 128 are ASCII and the table holds the others. -/
  | asciiTable (upper : String)
  /-- One character a byte, all of them in the table. -/
  | fullTable (chars : String)
  /-- The encoding in which nothing can be decoded. -/
  | undefined
  deriving Repr

namespace Encoding

/-- The encodings with their normalised names. -/
def known : List (Encoding × List String) := [
  (.ascii, [
    "646", "ansi_x3.4_1968", "ansi_x3.4_1986", "ansi_x3_4_1968", "ascii", "cp367", "csascii",
    "ibm367", "iso646_us", "iso_646.irv_1991", "iso_ir_6", "us", "us_ascii"]),
  (.latin1, [
    "charmap"]),
  (.fullTable tableCp037, [
    "037", "cp037", "csibm037", "ebcdic_cp_ca", "ebcdic_cp_nl", "ebcdic_cp_us", "ebcdic_cp_wt",
    "ibm037", "ibm039"]),
  (.asciiTable tableCp1006, [
    "cp1006"]),
  (.fullTable tableCp1026, [
    "1026", "cp1026", "csibm1026", "ibm1026"]),
  (.asciiTable tableCp1125, [
    "1125", "cp1125", "cp866u", "ibm1125", "ruscii"]),
  (.fullTable tableCp1140, [
    "1140", "cp1140", "ibm1140"]),
  (.asciiTable tableCp1250, [
    "1250", "cp1250", "windows_1250"]),
  (.asciiTable tableCp1251, [
    "1251", "cp1251", "windows_1251"]),
  (.asciiTable tableCp1252, [
    "1252", "cp1252", "windows_1252"]),
  (.asciiTable tableCp1253, [
    "1253", "cp1253", "windows_1253"]),
  (.asciiTable tableCp1254, [
    "1254", "cp1254", "windows_1254"]),
  (.asciiTable tableCp1255, [
    "1255", "cp1255", "windows_1255"]),
  (.asciiTable tableCp1256, [
    "1256", "cp1256", "windows_1256"]),
  (.asciiTable tableCp1257, [
    "1257", "cp1257", "windows_1257"]),
  (.asciiTable tableCp1258, [
    "1258", "cp1258", "windows_1258"]),
  (.fullTable tableCp273, [
    "273", "cp273", "csibm273", "ibm273"]),
  (.fullTable tableCp424, [
    "424", "cp424", "csibm424", "ebcdic_cp_he", "ibm424"]),
  (.asciiTable tableCp437, [
    "437", "cp437", "cspc8codepage437", "ibm437"]),
  (.fullTable tableCp500, [
    "500", "cp500", "csibm500", "ebcdic_cp_be", "ebcdic_cp_ch", "ibm500"]),
  (.asciiTable tableCp720, [
    "cp720"]),
  (.asciiTable tableCp737, [
    "cp737"]),
  (.asciiTable tableCp775, [
    "775", "cp775", "cspc775baltic", "ibm775"]),
  (.asciiTable tableCp850, [
    "850", "cp850", "cspc850multilingual", "ibm850"]),
  (.asciiTable tableCp852, [
    "852", "cp852", "cspcp852", "ibm852"]),
  (.asciiTable tableCp855, [
    "855", "cp855", "csibm855", "ibm855"]),
  (.asciiTable tableCp856, [
    "cp856"]),
  (.asciiTable tableCp857, [
    "857", "cp857", "csibm857", "ibm857"]),
  (.asciiTable tableCp858, [
    "858", "cp858", "csibm858", "ibm858"]),
  (.asciiTable tableCp860, [
    "860", "cp860", "csibm860", "ibm860"]),
  (.asciiTable tableCp861, [
    "861", "cp861", "cp_is", "csibm861", "ibm861"]),
  (.asciiTable tableCp862, [
    "862", "cp862", "cspc862latinhebrew", "ibm862"]),
  (.asciiTable tableCp863, [
    "863", "cp863", "csibm863", "ibm863"]),
  (.fullTable tableCp864, [
    "864", "cp864", "csibm864", "ibm864"]),
  (.asciiTable tableCp865, [
    "865", "cp865", "csibm865", "ibm865"]),
  (.asciiTable tableCp866, [
    "866", "cp866", "csibm866", "ibm866"]),
  (.asciiTable tableCp869, [
    "869", "cp869", "cp_gr", "csibm869", "ibm869"]),
  (.asciiTable tableCp874, [
    "cp874"]),
  (.fullTable tableCp875, [
    "cp875"]),
  (.asciiTable tableHpRoman8, [
    "cp1051", "csHPRoman8", "hp_roman8", "ibm1051", "r8", "roman8"]),
  (.asciiTable tableIso885910, [
    "csisolatin6", "iso8859_10", "iso_8859_10", "iso_8859_10_1992", "iso_ir_157", "l6", "latin6"]),
  (.asciiTable tableIso885911, [
    "iso8859_11", "iso_8859_11", "iso_8859_11_2001", "thai"]),
  (.asciiTable tableIso885913, [
    "iso8859_13", "iso_8859_13", "l7", "latin7"]),
  (.asciiTable tableIso885914, [
    "iso8859_14", "iso_8859_14", "iso_8859_14_1998", "iso_celtic", "iso_ir_199", "l8", "latin8"]),
  (.asciiTable tableIso885915, [
    "iso8859_15", "iso_8859_15", "l9", "latin9"]),
  (.asciiTable tableIso885916, [
    "iso8859_16", "iso_8859_16", "iso_8859_16_2001", "iso_ir_226", "l10", "latin10"]),
  (.asciiTable tableIso88592, [
    "csisolatin2", "iso8859_2", "iso_8859_2", "iso_8859_2_1987", "iso_ir_101", "l2", "latin2"]),
  (.asciiTable tableIso88593, [
    "csisolatin3", "iso8859_3", "iso_8859_3", "iso_8859_3_1988", "iso_ir_109", "l3", "latin3"]),
  (.asciiTable tableIso88594, [
    "csisolatin4", "iso8859_4", "iso_8859_4", "iso_8859_4_1988", "iso_ir_110", "l4", "latin4"]),
  (.asciiTable tableIso88595, [
    "csisolatincyrillic", "cyrillic", "iso8859_5", "iso_8859_5", "iso_8859_5_1988", "iso_ir_144"]),
  (.asciiTable tableIso88596, [
    "arabic", "asmo_708", "csisolatinarabic", "ecma_114", "iso8859_6", "iso_8859_6",
    "iso_8859_6_1987", "iso_ir_127"]),
  (.asciiTable tableIso88597, [
    "csisolatingreek", "ecma_118", "elot_928", "greek", "greek8", "iso8859_7", "iso_8859_7",
    "iso_8859_7_1987", "iso_ir_126"]),
  (.asciiTable tableIso88598, [
    "csisolatinhebrew", "hebrew", "iso8859_8", "iso_8859_8", "iso_8859_8_1988", "iso_ir_138"]),
  (.asciiTable tableIso88599, [
    "csisolatin5", "iso8859_9", "iso_8859_9", "iso_8859_9_1989", "iso_ir_148", "l5", "latin5"]),
  (.asciiTable tableKoi8R, [
    "cskoi8r", "koi8_r"]),
  (.asciiTable tableKoi8T, [
    "koi8_t"]),
  (.asciiTable tableKoi8U, [
    "koi8_u"]),
  (.asciiTable tableKz1048, [
    "kz1048", "kz_1048", "rk1048", "strk1048_2002"]),
  (.latin1, [
    "8859", "cp819", "csisolatin1", "ibm819", "iso8859", "iso8859_1", "iso_8859_1",
    "iso_8859_1_1987", "iso_ir_100", "l1", "latin", "latin1", "latin_1"]),
  (.asciiTable tableMacArabic, [
    "mac_arabic"]),
  (.asciiTable tableMacCroatian, [
    "mac_croatian"]),
  (.asciiTable tableMacCyrillic, [
    "mac_cyrillic", "maccyrillic"]),
  (.asciiTable tableMacFarsi, [
    "mac_farsi"]),
  (.asciiTable tableMacGreek, [
    "mac_greek", "macgreek"]),
  (.asciiTable tableMacIceland, [
    "mac_iceland", "maciceland"]),
  (.asciiTable tableMacLatin2, [
    "mac_centeuro", "mac_latin2", "maccentraleurope", "maclatin2"]),
  (.asciiTable tableMacRoman, [
    "mac_roman", "macintosh", "macroman"]),
  (.asciiTable tableMacRomanian, [
    "mac_romanian"]),
  (.asciiTable tableMacTurkish, [
    "mac_turkish", "macturkish"]),
  (.asciiTable tablePalmos, [
    "palmos"]),
  (.asciiTable tablePtcp154, [
    "cp154", "csptcp154", "cyrillic_asian", "pt154", "ptcp154"]),
  (.asciiTable tableTis620, [
    "iso_ir_166", "tis620", "tis_620", "tis_620_0", "tis_620_2529_0", "tis_620_2529_1"]),
  (.undefined, [
    "undefined"]),
  (.utf16, [
    "u16", "utf16", "utf_16"]),
  (.utf16In .big, [
    "unicodebigunmarked", "utf_16_be", "utf_16be"]),
  (.utf16In .little, [
    "unicodelittleunmarked", "utf_16_le", "utf_16le"]),
  (.utf32, [
    "u32", "utf32", "utf_32"]),
  (.utf32In .big, [
    "utf_32_be", "utf_32be"]),
  (.utf32In .little, [
    "utf_32_le", "utf_32le"]),
  (.utf8, [
    "cp65001", "u8", "utf", "utf8", "utf8_ucs2", "utf8_ucs4", "utf_8"]),
  (.utf8Signed, [
    "utf_8_sig"])]

/-- Names of transformations of bytes that are no encodings of text. -/
def transformations : List String := [
  "base64", "base64_codec", "base_64", "bz2", "bz2_codec", "hex", "hex_codec", "quopri",
  "quopri_codec", "quoted_printable", "quotedprintable", "rot13", "rot_13", "uu", "uu_codec",
  "zip", "zlib", "zlib_codec"]

/-- What a character contributes to a normalised name; `gap` tells of a run of other characters. -/
def normaliseChars
    (started gap : Bool) :
    List Char → List Char
  | [] => []
  | c :: rest =>
    if (c.toNat < 128 && c.isAlphanum) || c = '.' then
      if gap && started then '_' :: c.toLower :: normaliseChars true false rest
      else c.toLower :: normaliseChars true false rest
    else normaliseChars started true rest

/-- The normalised form of a name. -/
def normalise
    (name : String) : String :=
  String.ofList (normaliseChars false false name.toList)

/-- The encoding with a normalised name. -/
def ofNormalised?
    (name : String) : Option Encoding :=
  (known.find? fun entry => entry.2.contains name).map (·.1)

/-- The encoding that a name stands for. -/
def lookup
    (name : String) : Except Failure Encoding :=
  let plain := normalise name
  let dotless := String.ofList (plain.toList.map fun c => if c = '.' then '_' else c)
  match (ofNormalised? plain).or (ofNormalised? dotless) with
  | some encoding => .ok encoding
  | none =>
    if transformations.contains plain || transformations.contains dotless then
      .error (.notTextEncoding name)
    else .error (.unknownEncoding name)

end Encoding

end ConfigTokens.Codec
