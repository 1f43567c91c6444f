import SafetyConfig.Encoding.Charset.Basic

/-!
# Plain charsets

ASCII and Latin-1 go by many labels.
-/

namespace SafetyConfig.Charset

/-- Pure ASCII, and charsets in which a byte above 127 is no character by itself. -/
def ascii : Charset where
  names := ["ascii", "iso2022_jp", "iso2022_jp_1", "iso2022_jp_2", "iso2022_jp_2004",
    "iso2022_jp_3", "iso2022_jp_ext", "utf_8", "utf_8_sig"]
  aliases := ["ansi_x3.4_1968", "ansi_x3.4_1986", "ansi_x3_4_1968", "cp367", "cp65001", "csascii",
    "csiso2022jp", "ibm367", "iso2022jp", "iso2022jp_1", "iso2022jp_2", "iso2022jp_2004",
    "iso2022jp_3", "iso2022jp_ext", "iso646_us", "iso_2022_jp", "iso_2022_jp_1", "iso_2022_jp_2",
    "iso_2022_jp_2004", "iso_2022_jp_3", "iso_2022_jp_ext", "iso_646.irv_1991", "iso_ir_6", "u8",
    "us", "us_ascii", "utf", "utf8", "utf8_ucs2", "utf8_ucs4"]
  kind := .page CodePage.ascii

def latin1 : Charset where
  names := ["charmap", "latin_1", "raw_unicode_escape", "unicode_escape"]
  aliases := ["cp819", "csisolatin1", "ibm819", "iso8859", "iso8859_1", "iso_8859_1",
    "iso_8859_1_1987", "iso_ir_100", "l1", "latin", "latin1"]
  kind := .page CodePage.latin1

/-- ASCII, but for the tilde, which opens a shift. -/
def hz : Charset where
  names := ["hz"]
  aliases := ["hz_gb", "hz_gb_2312", "hzgb"]
  kind := .page ⟨[], ['~'.toNat]⟩

def plainCharsets : List Charset :=
  [ascii, latin1, hz]

end SafetyConfig.Charset
