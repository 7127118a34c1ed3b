import GestureLexicon.Markup.Charset
import GestureLexicon.Markup.Error

/-!
The names that character sets go by in declarations. They are compared without regard to case and
punctuation.
-/

namespace GestureLexicon.Markup.Charset

inductive Meaning where
  | page (found : CodePage)
  /-- A set of which one character may take several bytes. -/
  | wide
  /-- A set of single bytes that is not ASCII below 128. -/
  | foreign
  | notText
  | undecodable
  | refused (reason : String)
  deriving DecidableEq, Repr

/-- A meaning with its names. In the strict ones no point can stand for an underscore. -/
structure Names where
  meaning : Meaning
  strict : List String
  loose : List String

/-- All names but those that start with a digit, which no declaration can hold. UTF-8 under such a
name is read a byte at a time, and then it is no more than ASCII. -/
def knownNames : List Names := [
  ⟨.page .ascii,
    ["ascii", "iso2022_jp", "iso2022_jp_1", "iso2022_jp_2", "iso2022_jp_2004", "iso2022_jp_3",
     "iso2022_jp_ext", "utf_8", "utf_8_sig"],
    ["ansi_x3.4_1968", "ansi_x3.4_1986", "ansi_x3_4_1968", "cp367", "cp65001", "csascii",
     "csiso2022jp", "ibm367", "iso2022jp", "iso2022jp_1", "iso2022jp_2", "iso2022jp_2004",
     "iso2022jp_3", "iso2022jp_ext", "iso646_us", "iso_2022_jp", "iso_2022_jp_1", "iso_2022_jp_2",
     "iso_2022_jp_2004", "iso_2022_jp_3", "iso_2022_jp_ext", "iso_646.irv_1991", "iso_ir_6", "u8",
     "us", "us_ascii", "utf", "utf8", "utf8_ucs2", "utf8_ucs4"]⟩,
  ⟨.page .codePage437, ["cp437"], ["cspc8codepage437", "ibm437"]⟩,
  ⟨.page .codePage720, ["cp720"], []⟩,
  ⟨.page .codePage737, ["cp737"], []⟩,
  ⟨.page .codePage775, ["cp775"], ["cspc775baltic", "ibm775"]⟩,
  ⟨.page .codePage850, ["cp850"], ["cspc850multilingual", "ibm850"]⟩,
  ⟨.page .codePage852, ["cp852"], ["cspcp852", "ibm852"]⟩,
  ⟨.page .codePage855, ["cp855"], ["csibm855", "ibm855"]⟩,
  ⟨.page .codePage856, ["cp856"], []⟩,
  ⟨.page .codePage857, ["cp857"], ["csibm857", "ibm857"]⟩,
  ⟨.page .codePage858, ["cp858"], ["csibm858", "ibm858"]⟩,
  ⟨.page .codePage860, ["cp860"], ["csibm860", "ibm860"]⟩,
  ⟨.page .codePage861, ["cp861"], ["cp_is", "csibm861", "ibm861"]⟩,
  ⟨.page .codePage862, ["cp862"], ["cspc862latinhebrew", "ibm862"]⟩,
  ⟨.page .codePage863, ["cp863"], ["csibm863", "ibm863"]⟩,
  ⟨.page .codePage865, ["cp865"], ["csibm865", "ibm865"]⟩,
  ⟨.page .codePage866, ["cp866"], ["csibm866", "ibm866"]⟩,
  ⟨.page .codePage869, ["cp869"], ["cp_gr", "csibm869", "ibm869"]⟩,
  ⟨.page .codePage874, ["cp874"], []⟩,
  ⟨.page .codePage1006, ["cp1006"], []⟩,
  ⟨.page .codePage1125, ["cp1125"], ["cp866u", "ibm1125", "ruscii"]⟩,
  ⟨.page .hpRoman8, ["hp_roman8"], ["cp1051", "ibm1051", "r8", "roman8"]⟩,
  ⟨.page .hz, ["hz"], ["hz_gb", "hz_gb_2312", "hzgb"]⟩,
  ⟨.page .iso8859_2, ["iso8859_2"],
    ["csisolatin2", "iso_8859_2", "iso_8859_2_1987", "iso_ir_101", "l2", "latin2"]⟩,
  ⟨.page .iso8859_3, ["iso8859_3"],
    ["csisolatin3", "iso_8859_3", "iso_8859_3_1988", "iso_ir_109", "l3", "latin3"]⟩,
  ⟨.page .iso8859_4, ["iso8859_4"],
    ["csisolatin4", "iso_8859_4", "iso_8859_4_1988", "iso_ir_110", "l4", "latin4"]⟩,
  ⟨.page .iso8859_5, ["iso8859_5"],
    ["csisolatincyrillic", "cyrillic", "iso_8859_5", "iso_8859_5_1988", "iso_ir_144"]⟩,
  ⟨.page .iso8859_6, ["iso8859_6"],
    ["arabic", "asmo_708", "csisolatinarabic", "ecma_114", "iso_8859_6", "iso_8859_6_1987",
     "iso_ir_127"]⟩,
  ⟨.page .iso8859_7, ["iso8859_7"],
    ["csisolatingreek", "ecma_118", "elot_928", "greek", "greek8", "iso_8859_7",
     "iso_8859_7_1987", "iso_ir_126"]⟩,
  ⟨.page .iso8859_8, ["iso8859_8"],
    ["csisolatinhebrew", "hebrew", "iso_8859_8", "iso_8859_8_1988", "iso_ir_138"]⟩,
  ⟨.page .iso8859_9, ["iso8859_9"],
    ["csisolatin5", "iso_8859_9", "iso_8859_9_1989", "iso_ir_148", "l5", "latin5"]⟩,
  ⟨.page .iso8859_10, ["iso8859_10"],
    ["csisolatin6", "iso_8859_10", "iso_8859_10_1992", "iso_ir_157", "l6", "latin6"]⟩,
  ⟨.page .iso8859_11, ["iso8859_11"], ["iso_8859_11", "iso_8859_11_2001", "thai"]⟩,
  ⟨.page .iso8859_13, ["iso8859_13"], ["iso_8859_13", "l7", "latin7"]⟩,
  ⟨.page .iso8859_14, ["iso8859_14"],
    ["iso_8859_14", "iso_8859_14_1998", "iso_celtic", "iso_ir_199", "l8", "latin8"]⟩,
  ⟨.page .iso8859_15, ["iso8859_15"], ["iso_8859_15", "l9", "latin9"]⟩,
  ⟨.page .iso8859_16, ["iso8859_16"],
    ["iso_8859_16", "iso_8859_16_2001", "iso_ir_226", "l10", "latin10"]⟩,
  ⟨.page .koi8R, ["koi8_r"], ["cskoi8r"]⟩,
  ⟨.page .koi8T, ["koi8_t"], []⟩,
  ⟨.page .koi8U, ["koi8_u"], []⟩,
  ⟨.page .kz1048, ["kz1048"], ["kz_1048", "rk1048", "strk1048_2002"]⟩,
  ⟨.page .latin1, ["charmap", "latin_1", "raw_unicode_escape", "unicode_escape"],
    ["cp819", "csisolatin1", "ibm819", "iso8859", "iso8859_1", "iso_8859_1", "iso_8859_1_1987",
     "iso_ir_100", "l1", "latin", "latin1"]⟩,
  ⟨.page .macCroatian, ["mac_croatian"], []⟩,
  ⟨.page .macCyrillic, ["mac_cyrillic"], ["maccyrillic"]⟩,
  ⟨.page .macGreek, ["mac_greek"], ["macgreek"]⟩,
  ⟨.page .macIceland, ["mac_iceland"], ["maciceland"]⟩,
  ⟨.page .macLatin2, ["mac_latin2"], ["mac_centeuro", "maccentraleurope", "maclatin2"]⟩,
  ⟨.page .macRoman, ["mac_roman"], ["macintosh", "macroman"]⟩,
  ⟨.page .macRomanian, ["mac_romanian"], []⟩,
  ⟨.page .macTurkish, ["mac_turkish"], ["macturkish"]⟩,
  ⟨.page .palmos, ["palmos"], []⟩,
  ⟨.page .ptcp154, ["ptcp154"], ["cp154", "csptcp154", "cyrillic_asian", "pt154"]⟩,
  ⟨.page .tis620, ["tis_620"],
    ["iso_ir_166", "tis620", "tis_620_0", "tis_620_2529_0", "tis_620_2529_1"]⟩,
  ⟨.page .windows1250, ["cp1250"], ["windows_1250"]⟩,
  ⟨.page .windows1251, ["cp1251"], ["windows_1251"]⟩,
  ⟨.page .windows1252, ["cp1252"], ["windows_1252"]⟩,
  ⟨.page .windows1253, ["cp1253"], ["windows_1253"]⟩,
  ⟨.page .windows1254, ["cp1254"], ["windows_1254"]⟩,
  ⟨.page .windows1255, ["cp1255"], ["windows_1255"]⟩,
  ⟨.page .windows1256, ["cp1256"], ["windows_1256"]⟩,
  ⟨.page .windows1257, ["cp1257"], ["windows_1257"]⟩,
  ⟨.page .windows1258, ["cp1258"], ["windows_1258"]⟩,
  ⟨.wide,
    ["big5", "big5hkscs", "cp932", "cp949", "cp950", "euc_jis_2004", "euc_jisx0213", "euc_jp",
     "euc_kr", "gb18030", "gb2312", "gbk", "iso2022_kr", "johab", "shift_jis", "shift_jis_2004",
     "shift_jisx0213", "utf_16", "utf_16_be", "utf_16_le", "utf_32", "utf_32_be", "utf_32_le",
     "utf_7"],
    ["big5_hkscs", "big5_tw", "chinese", "cp1361", "cp936", "csbig5", "csiso2022kr",
     "csiso58gb231280", "csshiftjis", "euc_cn", "euc_jis2004", "euccn", "eucgb2312_cn",
     "eucjis2004", "eucjisx0213", "eucjp", "euckr", "gb18030_2000", "gb2312_1980", "gb2312_80",
     "hkscs", "iso2022kr", "iso_2022_kr", "iso_ir_58", "jisx0213", "korean", "ks_c_5601",
     "ks_c_5601_1987", "ks_x_1001", "ksc5601", "ksx1001", "ms1361", "ms932", "ms936", "ms949",
     "ms950", "ms_kanji", "mskanji", "s_jis", "s_jis_2004", "s_jisx0213", "shiftjis",
     "shiftjis2004", "shiftjisx0213", "sjis", "sjis_2004", "sjisx0213", "u16", "u32", "u7",
     "u_jis", "uhc", "ujis", "unicode_1_1_utf_7", "unicodebigunmarked", "unicodelittleunmarked",
     "utf16", "utf32", "utf7", "utf_16be", "utf_16le", "utf_32be", "utf_32le", "x_mac_japanese",
     "x_mac_korean", "x_mac_simp_chinese", "x_mac_trad_chinese"]⟩,
  ⟨.foreign,
    ["cp037", "cp1026", "cp1140", "cp273", "cp424", "cp500", "cp864", "cp875", "mac_arabic",
     "mac_farsi"],
    ["csibm037", "csibm1026", "csibm273", "csibm424", "csibm500", "csibm864", "ebcdic_cp_be",
     "ebcdic_cp_ca", "ebcdic_cp_ch", "ebcdic_cp_he", "ebcdic_cp_nl", "ebcdic_cp_us",
     "ebcdic_cp_wt", "ibm037", "ibm039", "ibm1026", "ibm1140", "ibm273", "ibm424", "ibm500",
     "ibm864"]⟩,
  ⟨.notText,
    ["base64_codec", "bz2_codec", "hex_codec", "quopri_codec", "rot_13", "uu_codec", "zlib_codec"],
    ["base64", "base_64", "bz2", "hex", "quopri", "quoted_printable", "quotedprintable", "rot13",
     "uu", "zip", "zlib"]⟩,
  ⟨.undecodable, ["punycode"], []⟩,
  ⟨.refused "Unsupported error handling replace", ["idna"], []⟩,
  ⟨.refused "undefined encoding", ["undefined"], []⟩]

/-- A name without regard to case and punctuation: lower case, with one underscore where anything
but letters, digits and points stands between them. -/
def plainName (name : List Char) : String :=
  let spaced := name.map fun c => if c.isAlphanum || c == '.' then c.toLower else ' '
  "_".intercalate (((String.ofList spaced).splitOn " ").filter (· != ""))

def Meaning.ofPlainName? (known : String) : Option Meaning :=
  let undotted := String.ofList (known.toList.map fun c => if c == '.' then '_' else c)
  (knownNames.find? fun entry =>
    entry.strict.contains known || entry.loose.contains known
      || entry.loose.contains undotted).map Names.meaning

def ofName (name : List Char) : Except MarkupError Charset :=
  match Meaning.ofPlainName? (plainName name) with
  | some (.page found) => .ok (page found)
  | some .wide => .error .wideEncoding
  | some .foreign => .error .malformed
  | some .notText => .error (.notACharset (.ofList name))
  | some .undecodable => .error .undecodable
  | some (.refused reason) => .error (.refused (.ofList name) reason)
  | none => .error (.unknownEncoding (.ofList name))

end GestureLexicon.Markup.Charset
