import Classpath.Unicode.RangeTable

/-!
# Scripts

Every letter belongs to the script it is written in; code points that several scripts share
are `common` or `inherited`. A code point may besides be in use in further scripts: those
are its script extensions.

## Main definitions

* One `RangeTable` per script.
* `byName`: scripts under their names and codes in lower case without separators.
* `extensionsByName`: the code points in use in a script, under the same names.
-/

namespace Classpath.Unicode.Script

/-- Code points of the script Adlam. -/
def adlam : RangeTable := .read "
  1E900-1E94B 1E950-1E959 1E95E-1E95F"

/-- Code points of the script Ahom. -/
def ahom : RangeTable := .read "
  11700-1171A 1171D-1172B 11730-11746"

/-- Code points of the script Anatolian Hieroglyphs. -/
def anatolianHieroglyphs : RangeTable := .read "
  14400-14646"

/-- Code points of the script Arabic. -/
def arabic : RangeTable := .read "
  0600-0604 0606-060B 060D-061A 061C-061E 0620-063F 0641-064A 0656-066F 0671-06DC 06DE-06FF
  0750-077F 0870-088E 0890-0891 0898-08E1 08E3-08FF FB50-FBC2 FBD3-FD3D FD40-FD8F FD92-FDC7 FDCF
  FDF0-FDFF FE70-FE74 FE76-FEFC 10E60-10E7E 10EFD-10EFF 1EE00-1EE03 1EE05-1EE1F 1EE21-1EE22
  1EE24 1EE27 1EE29-1EE32 1EE34-1EE37 1EE39 1EE3B 1EE42 1EE47 1EE49 1EE4B 1EE4D-1EE4F
  1EE51-1EE52 1EE54 1EE57 1EE59 1EE5B 1EE5D 1EE5F 1EE61-1EE62 1EE64 1EE67-1EE6A 1EE6C-1EE72
  1EE74-1EE77 1EE79-1EE7C 1EE7E 1EE80-1EE89 1EE8B-1EE9B 1EEA1-1EEA3 1EEA5-1EEA9 1EEAB-1EEBB
  1EEF0-1EEF1"

/-- Code points of the script Armenian. -/
def armenian : RangeTable := .read "
  0531-0556 0559-058A 058D-058F FB13-FB17"

/-- Code points of the script Avestan. -/
def avestan : RangeTable := .read "
  10B00-10B35 10B39-10B3F"

/-- Code points of the script Balinese. -/
def balinese : RangeTable := .read "
  1B00-1B4C 1B50-1B7E"

/-- Code points of the script Bamum. -/
def bamum : RangeTable := .read "
  A6A0-A6F7 16800-16A38"

/-- Code points of the script Bassa Vah. -/
def bassaVah : RangeTable := .read "
  16AD0-16AED 16AF0-16AF5"

/-- Code points of the script Batak. -/
def batak : RangeTable := .read "
  1BC0-1BF3 1BFC-1BFF"

/-- Code points of the script Bengali. -/
def bengali : RangeTable := .read "
  0980-0983 0985-098C 098F-0990 0993-09A8 09AA-09B0 09B2 09B6-09B9 09BC-09C4 09C7-09C8 09CB-09CE
  09D7 09DC-09DD 09DF-09E3 09E6-09FE"

/-- Code points of the script Bhaiksuki. -/
def bhaiksuki : RangeTable := .read "
  11C00-11C08 11C0A-11C36 11C38-11C45 11C50-11C6C"

/-- Code points of the script Bopomofo. -/
def bopomofo : RangeTable := .read "
  02EA-02EB 3105-312F 31A0-31BF"

/-- Code points of the script Brahmi. -/
def brahmi : RangeTable := .read "
  11000-1104D 11052-11075 1107F"

/-- Code points of the script Braille. -/
def braille : RangeTable := .read "
  2800-28FF"

/-- Code points of the script Buginese. -/
def buginese : RangeTable := .read "
  1A00-1A1B 1A1E-1A1F"

/-- Code points of the script Buhid. -/
def buhid : RangeTable := .read "
  1740-1753"

/-- Code points of the script Canadian Aboriginal. -/
def canadianAboriginal : RangeTable := .read "
  1400-167F 18B0-18F5 11AB0-11ABF"

/-- Code points of the script Carian. -/
def carian : RangeTable := .read "
  102A0-102D0"

/-- Code points of the script Caucasian Albanian. -/
def caucasianAlbanian : RangeTable := .read "
  10530-10563 1056F"

/-- Code points of the script Chakma. -/
def chakma : RangeTable := .read "
  11100-11134 11136-11147"

/-- Code points of the script Cham. -/
def cham : RangeTable := .read "
  AA00-AA36 AA40-AA4D AA50-AA59 AA5C-AA5F"

/-- Code points of the script Cherokee. -/
def cherokee : RangeTable := .read "
  13A0-13F5 13F8-13FD AB70-ABBF"

/-- Code points of the script Chorasmian. -/
def chorasmian : RangeTable := .read "
  10FB0-10FCB"

/-- Code points of the script Common. -/
def common : RangeTable := .read "
  0000-0040 005B-0060 007B-00A9 00AB-00B9 00BB-00BF 00D7 00F7 02B9-02DF 02E5-02E9 02EC-02FF 0374
  037E 0385 0387 0605 060C 061B 061F 0640 06DD 08E2 0964-0965 0E3F 0FD5-0FD8 10FB 16EB-16ED
  1735-1736 1802-1803 1805 1CD3 1CE1 1CE9-1CEC 1CEE-1CF3 1CF5-1CF7 1CFA 2000-200B 200E-2064
  2066-2070 2074-207E 2080-208E 20A0-20C0 2100-2125 2127-2129 212C-2131 2133-214D 214F-215F
  2189-218B 2190-2426 2440-244A 2460-27FF 2900-2B73 2B76-2B95 2B97-2BFF 2E00-2E5D 2FF0-2FFB
  3000-3004 3006 3008-3020 3030-3037 303C-303F 309B-309C 30A0 30FB-30FC 3190-319F 31C0-31E3
  3220-325F 327F-32CF 32FF 3358-33FF 4DC0-4DFF A700-A721 A788-A78A A830-A839 A92E A9CF AB5B
  AB6A-AB6B FD3E-FD3F FE10-FE19 FE30-FE52 FE54-FE66 FE68-FE6B FEFF FF01-FF20 FF3B-FF40 FF5B-FF65
  FF70 FF9E-FF9F FFE0-FFE6 FFE8-FFEE FFF9-FFFD 10100-10102 10107-10133 10137-1013F 10190-1019C
  101D0-101FC 102E1-102FB 1BCA0-1BCA3 1CF50-1CFC3 1D000-1D0F5 1D100-1D126 1D129-1D166
  1D16A-1D17A 1D183-1D184 1D18C-1D1A9 1D1AE-1D1EA 1D2C0-1D2D3 1D2E0-1D2F3 1D300-1D356
  1D360-1D378 1D400-1D454 1D456-1D49C 1D49E-1D49F 1D4A2 1D4A5-1D4A6 1D4A9-1D4AC 1D4AE-1D4B9
  1D4BB 1D4BD-1D4C3 1D4C5-1D505 1D507-1D50A 1D50D-1D514 1D516-1D51C 1D51E-1D539 1D53B-1D53E
  1D540-1D544 1D546 1D54A-1D550 1D552-1D6A5 1D6A8-1D7CB 1D7CE-1D7FF 1EC71-1ECB4 1ED01-1ED3D
  1F000-1F02B 1F030-1F093 1F0A0-1F0AE 1F0B1-1F0BF 1F0C1-1F0CF 1F0D1-1F0F5 1F100-1F1AD
  1F1E6-1F1FF 1F201-1F202 1F210-1F23B 1F240-1F248 1F250-1F251 1F260-1F265 1F300-1F6D7
  1F6DC-1F6EC 1F6F0-1F6FC 1F700-1F776 1F77B-1F7D9 1F7E0-1F7EB 1F7F0 1F800-1F80B 1F810-1F847
  1F850-1F859 1F860-1F887 1F890-1F8AD 1F8B0-1F8B1 1F900-1FA53 1FA60-1FA6D 1FA70-1FA7C
  1FA80-1FA88 1FA90-1FABD 1FABF-1FAC5 1FACE-1FADB 1FAE0-1FAE8 1FAF0-1FAF8 1FB00-1FB92
  1FB94-1FBCA 1FBF0-1FBF9 E0001 E0020-E007F"

/-- Code points of the script Coptic. -/
def coptic : RangeTable := .read "
  03E2-03EF 2C80-2CF3 2CF9-2CFF"

/-- Code points of the script Cuneiform. -/
def cuneiform : RangeTable := .read "
  12000-12399 12400-1246E 12470-12474 12480-12543"

/-- Code points of the script Cypriot. -/
def cypriot : RangeTable := .read "
  10800-10805 10808 1080A-10835 10837-10838 1083C 1083F"

/-- Code points of the script Cypro Minoan. -/
def cyproMinoan : RangeTable := .read "
  12F90-12FF2"

/-- Code points of the script Cyrillic. -/
def cyrillic : RangeTable := .read "
  0400-0484 0487-052F 1C80-1C88 1D2B 1D78 2DE0-2DFF A640-A69F FE2E-FE2F 1E030-1E06D 1E08F"

/-- Code points of the script Deseret. -/
def deseret : RangeTable := .read "
  10400-1044F"

/-- Code points of the script Devanagari. -/
def devanagari : RangeTable := .read "
  0900-0950 0955-0963 0966-097F A8E0-A8FF 11B00-11B09"

/-- Code points of the script Dives Akuru. -/
def divesAkuru : RangeTable := .read "
  11900-11906 11909 1190C-11913 11915-11916 11918-11935 11937-11938 1193B-11946 11950-11959"

/-- Code points of the script Dogra. -/
def dogra : RangeTable := .read "
  11800-1183B"

/-- Code points of the script Duployan. -/
def duployan : RangeTable := .read "
  1BC00-1BC6A 1BC70-1BC7C 1BC80-1BC88 1BC90-1BC99 1BC9C-1BC9F"

/-- Code points of the script Egyptian Hieroglyphs. -/
def egyptianHieroglyphs : RangeTable := .read "
  13000-13455"

/-- Code points of the script Elbasan. -/
def elbasan : RangeTable := .read "
  10500-10527"

/-- Code points of the script Elymaic. -/
def elymaic : RangeTable := .read "
  10FE0-10FF6"

/-- Code points of the script Ethiopic. -/
def ethiopic : RangeTable := .read "
  1200-1248 124A-124D 1250-1256 1258 125A-125D 1260-1288 128A-128D 1290-12B0 12B2-12B5 12B8-12BE
  12C0 12C2-12C5 12C8-12D6 12D8-1310 1312-1315 1318-135A 135D-137C 1380-1399 2D80-2D96 2DA0-2DA6
  2DA8-2DAE 2DB0-2DB6 2DB8-2DBE 2DC0-2DC6 2DC8-2DCE 2DD0-2DD6 2DD8-2DDE AB01-AB06 AB09-AB0E
  AB11-AB16 AB20-AB26 AB28-AB2E 1E7E0-1E7E6 1E7E8-1E7EB 1E7ED-1E7EE 1E7F0-1E7FE"

/-- Code points of the script Georgian. -/
def georgian : RangeTable := .read "
  10A0-10C5 10C7 10CD 10D0-10FA 10FC-10FF 1C90-1CBA 1CBD-1CBF 2D00-2D25 2D27 2D2D"

/-- Code points of the script Glagolitic. -/
def glagolitic : RangeTable := .read "
  2C00-2C5F 1E000-1E006 1E008-1E018 1E01B-1E021 1E023-1E024 1E026-1E02A"

/-- Code points of the script Gothic. -/
def gothic : RangeTable := .read "
  10330-1034A"

/-- Code points of the script Grantha. -/
def grantha : RangeTable := .read "
  11300-11303 11305-1130C 1130F-11310 11313-11328 1132A-11330 11332-11333 11335-11339
  1133C-11344 11347-11348 1134B-1134D 11350 11357 1135D-11363 11366-1136C 11370-11374"

/-- Code points of the script Greek. -/
def greek : RangeTable := .read "
  0370-0373 0375-0377 037A-037D 037F 0384 0386 0388-038A 038C 038E-03A1 03A3-03E1 03F0-03FF
  1D26-1D2A 1D5D-1D61 1D66-1D6A 1DBF 1F00-1F15 1F18-1F1D 1F20-1F45 1F48-1F4D 1F50-1F57 1F59 1F5B
  1F5D 1F5F-1F7D 1F80-1FB4 1FB6-1FC4 1FC6-1FD3 1FD6-1FDB 1FDD-1FEF 1FF2-1FF4 1FF6-1FFE 2126 AB65
  10140-1018E 101A0 1D200-1D245"

/-- Code points of the script Gujarati. -/
def gujarati : RangeTable := .read "
  0A81-0A83 0A85-0A8D 0A8F-0A91 0A93-0AA8 0AAA-0AB0 0AB2-0AB3 0AB5-0AB9 0ABC-0AC5 0AC7-0AC9
  0ACB-0ACD 0AD0 0AE0-0AE3 0AE6-0AF1 0AF9-0AFF"

/-- Code points of the script Gunjala Gondi. -/
def gunjalaGondi : RangeTable := .read "
  11D60-11D65 11D67-11D68 11D6A-11D8E 11D90-11D91 11D93-11D98 11DA0-11DA9"

/-- Code points of the script Gurmukhi. -/
def gurmukhi : RangeTable := .read "
  0A01-0A03 0A05-0A0A 0A0F-0A10 0A13-0A28 0A2A-0A30 0A32-0A33 0A35-0A36 0A38-0A39 0A3C 0A3E-0A42
  0A47-0A48 0A4B-0A4D 0A51 0A59-0A5C 0A5E 0A66-0A76"

/-- Code points of the script Han. -/
def han : RangeTable := .read "
  2E80-2E99 2E9B-2EF3 2F00-2FD5 3005 3007 3021-3029 3038-303B 3400-4DBF 4E00-9FFF F900-FA6D
  FA70-FAD9 16FE2-16FE3 16FF0-16FF1 20000-2A6DF 2A700-2B739 2B740-2B81D 2B820-2CEA1 2CEB0-2EBE0
  2F800-2FA1D 30000-3134A 31350-323AF"

/-- Code points of the script Hangul. -/
def hangul : RangeTable := .read "
  1100-11FF 302E-302F 3131-318E 3200-321E 3260-327E A960-A97C AC00-D7A3 D7B0-D7C6 D7CB-D7FB
  FFA0-FFBE FFC2-FFC7 FFCA-FFCF FFD2-FFD7 FFDA-FFDC"

/-- Code points of the script Hanifi Rohingya. -/
def hanifiRohingya : RangeTable := .read "
  10D00-10D27 10D30-10D39"

/-- Code points of the script Hanunoo. -/
def hanunoo : RangeTable := .read "
  1720-1734"

/-- Code points of the script Hatran. -/
def hatran : RangeTable := .read "
  108E0-108F2 108F4-108F5 108FB-108FF"

/-- Code points of the script Hebrew. -/
def hebrew : RangeTable := .read "
  0591-05C7 05D0-05EA 05EF-05F4 FB1D-FB36 FB38-FB3C FB3E FB40-FB41 FB43-FB44 FB46-FB4F"

/-- Code points of the script Hiragana. -/
def hiragana : RangeTable := .read "
  3041-3096 309D-309F 1B001-1B11F 1B132 1B150-1B152 1F200"

/-- Code points of the script Imperial Aramaic. -/
def imperialAramaic : RangeTable := .read "
  10840-10855 10857-1085F"

/-- Code points of the script Inherited. -/
def inherited : RangeTable := .read "
  0300-036F 0485-0486 064B-0655 0670 0951-0954 1AB0-1ACE 1CD0-1CD2 1CD4-1CE0 1CE2-1CE8 1CED 1CF4
  1CF8-1CF9 1DC0-1DFF 200C-200D 20D0-20F0 302A-302D 3099-309A FE00-FE0F FE20-FE2D 101FD 102E0
  1133B 1CF00-1CF2D 1CF30-1CF46 1D167-1D169 1D17B-1D182 1D185-1D18B 1D1AA-1D1AD E0100-E01EF"

/-- Code points of the script Inscriptional Pahlavi. -/
def inscriptionalPahlavi : RangeTable := .read "
  10B60-10B72 10B78-10B7F"

/-- Code points of the script Inscriptional Parthian. -/
def inscriptionalParthian : RangeTable := .read "
  10B40-10B55 10B58-10B5F"

/-- Code points of the script Javanese. -/
def javanese : RangeTable := .read "
  A980-A9CD A9D0-A9D9 A9DE-A9DF"

/-- Code points of the script Kaithi. -/
def kaithi : RangeTable := .read "
  11080-110C2 110CD"

/-- Code points of the script Kannada. -/
def kannada : RangeTable := .read "
  0C80-0C8C 0C8E-0C90 0C92-0CA8 0CAA-0CB3 0CB5-0CB9 0CBC-0CC4 0CC6-0CC8 0CCA-0CCD 0CD5-0CD6
  0CDD-0CDE 0CE0-0CE3 0CE6-0CEF 0CF1-0CF3"

/-- Code points of the script Katakana. -/
def katakana : RangeTable := .read "
  30A1-30FA 30FD-30FF 31F0-31FF 32D0-32FE 3300-3357 FF66-FF6F FF71-FF9D 1AFF0-1AFF3 1AFF5-1AFFB
  1AFFD-1AFFE 1B000 1B120-1B122 1B155 1B164-1B167"

/-- Code points of the script Kawi. -/
def kawi : RangeTable := .read "
  11F00-11F10 11F12-11F3A 11F3E-11F59"

/-- Code points of the script Kayah Li. -/
def kayahLi : RangeTable := .read "
  A900-A92D A92F"

/-- Code points of the script Kharoshthi. -/
def kharoshthi : RangeTable := .read "
  10A00-10A03 10A05-10A06 10A0C-10A13 10A15-10A17 10A19-10A35 10A38-10A3A 10A3F-10A48
  10A50-10A58"

/-- Code points of the script Khitan Small Script. -/
def khitanSmallScript : RangeTable := .read "
  16FE4 18B00-18CD5"

/-- Code points of the script Khmer. -/
def khmer : RangeTable := .read "
  1780-17DD 17E0-17E9 17F0-17F9 19E0-19FF"

/-- Code points of the script Khojki. -/
def khojki : RangeTable := .read "
  11200-11211 11213-11241"

/-- Code points of the script Khudawadi. -/
def khudawadi : RangeTable := .read "
  112B0-112EA 112F0-112F9"

/-- Code points of the script Lao. -/
def lao : RangeTable := .read "
  0E81-0E82 0E84 0E86-0E8A 0E8C-0EA3 0EA5 0EA7-0EBD 0EC0-0EC4 0EC6 0EC8-0ECE 0ED0-0ED9 0EDC-0EDF"

/-- Code points of the script Latin. -/
def latin : RangeTable := .read "
  0041-005A 0061-007A 00AA 00BA 00C0-00D6 00D8-00F6 00F8-02B8 02E0-02E4 1D00-1D25 1D2C-1D5C
  1D62-1D65 1D6B-1D77 1D79-1DBE 1E00-1EFF 2071 207F 2090-209C 212A-212B 2132 214E 2160-2188
  2C60-2C7F A722-A787 A78B-A7CA A7D0-A7D1 A7D3 A7D5-A7D9 A7F2-A7FF AB30-AB5A AB5C-AB64 AB66-AB69
  FB00-FB06 FF21-FF3A FF41-FF5A 10780-10785 10787-107B0 107B2-107BA 1DF00-1DF1E 1DF25-1DF2A"

/-- Code points of the script Lepcha. -/
def lepcha : RangeTable := .read "
  1C00-1C37 1C3B-1C49 1C4D-1C4F"

/-- Code points of the script Limbu. -/
def limbu : RangeTable := .read "
  1900-191E 1920-192B 1930-193B 1940 1944-194F"

/-- Code points of the script Linear A. -/
def linearA : RangeTable := .read "
  10600-10736 10740-10755 10760-10767"

/-- Code points of the script Linear B. -/
def linearB : RangeTable := .read "
  10000-1000B 1000D-10026 10028-1003A 1003C-1003D 1003F-1004D 10050-1005D 10080-100FA"

/-- Code points of the script Lisu. -/
def lisu : RangeTable := .read "
  A4D0-A4FF 11FB0"

/-- Code points of the script Lycian. -/
def lycian : RangeTable := .read "
  10280-1029C"

/-- Code points of the script Lydian. -/
def lydian : RangeTable := .read "
  10920-10939 1093F"

/-- Code points of the script Mahajani. -/
def mahajani : RangeTable := .read "
  11150-11176"

/-- Code points of the script Makasar. -/
def makasar : RangeTable := .read "
  11EE0-11EF8"

/-- Code points of the script Malayalam. -/
def malayalam : RangeTable := .read "
  0D00-0D0C 0D0E-0D10 0D12-0D44 0D46-0D48 0D4A-0D4F 0D54-0D63 0D66-0D7F"

/-- Code points of the script Mandaic. -/
def mandaic : RangeTable := .read "
  0840-085B 085E"

/-- Code points of the script Manichaean. -/
def manichaean : RangeTable := .read "
  10AC0-10AE6 10AEB-10AF6"

/-- Code points of the script Marchen. -/
def marchen : RangeTable := .read "
  11C70-11C8F 11C92-11CA7 11CA9-11CB6"

/-- Code points of the script Masaram Gondi. -/
def masaramGondi : RangeTable := .read "
  11D00-11D06 11D08-11D09 11D0B-11D36 11D3A 11D3C-11D3D 11D3F-11D47 11D50-11D59"

/-- Code points of the script Medefaidrin. -/
def medefaidrin : RangeTable := .read "
  16E40-16E9A"

/-- Code points of the script Meetei Mayek. -/
def meeteiMayek : RangeTable := .read "
  AAE0-AAF6 ABC0-ABED ABF0-ABF9"

/-- Code points of the script Mende Kikakui. -/
def mendeKikakui : RangeTable := .read "
  1E800-1E8C4 1E8C7-1E8D6"

/-- Code points of the script Meroitic Cursive. -/
def meroiticCursive : RangeTable := .read "
  109A0-109B7 109BC-109CF 109D2-109FF"

/-- Code points of the script Meroitic Hieroglyphs. -/
def meroiticHieroglyphs : RangeTable := .read "
  10980-1099F"

/-- Code points of the script Miao. -/
def miao : RangeTable := .read "
  16F00-16F4A 16F4F-16F87 16F8F-16F9F"

/-- Code points of the script Modi. -/
def modi : RangeTable := .read "
  11600-11644 11650-11659"

/-- Code points of the script Mongolian. -/
def mongolian : RangeTable := .read "
  1800-1801 1804 1806-1819 1820-1878 1880-18AA 11660-1166C"

/-- Code points of the script Mro. -/
def mro : RangeTable := .read "
  16A40-16A5E 16A60-16A69 16A6E-16A6F"

/-- Code points of the script Multani. -/
def multani : RangeTable := .read "
  11280-11286 11288 1128A-1128D 1128F-1129D 1129F-112A9"

/-- Code points of the script Myanmar. -/
def myanmar : RangeTable := .read "
  1000-109F A9E0-A9FE AA60-AA7F"

/-- Code points of the script Nabataean. -/
def nabataean : RangeTable := .read "
  10880-1089E 108A7-108AF"

/-- Code points of the script Nag Mundari. -/
def nagMundari : RangeTable := .read "
  1E4D0-1E4F9"

/-- Code points of the script Nandinagari. -/
def nandinagari : RangeTable := .read "
  119A0-119A7 119AA-119D7 119DA-119E4"

/-- Code points of the script New Tai Lue. -/
def newTaiLue : RangeTable := .read "
  1980-19AB 19B0-19C9 19D0-19DA 19DE-19DF"

/-- Code points of the script Newa. -/
def newa : RangeTable := .read "
  11400-1145B 1145D-11461"

/-- Code points of the script Nko. -/
def nko : RangeTable := .read "
  07C0-07FA 07FD-07FF"

/-- Code points of the script Nushu. -/
def nushu : RangeTable := .read "
  16FE1 1B170-1B2FB"

/-- Code points of the script Nyiakeng Puachue Hmong. -/
def nyiakengPuachueHmong : RangeTable := .read "
  1E100-1E12C 1E130-1E13D 1E140-1E149 1E14E-1E14F"

/-- Code points of the script Ogham. -/
def ogham : RangeTable := .read "
  1680-169C"

/-- Code points of the script Ol Chiki. -/
def olChiki : RangeTable := .read "
  1C50-1C7F"

/-- Code points of the script Old Hungarian. -/
def oldHungarian : RangeTable := .read "
  10C80-10CB2 10CC0-10CF2 10CFA-10CFF"

/-- Code points of the script Old Italic. -/
def oldItalic : RangeTable := .read "
  10300-10323 1032D-1032F"

/-- Code points of the script Old North Arabian. -/
def oldNorthArabian : RangeTable := .read "
  10A80-10A9F"

/-- Code points of the script Old Permic. -/
def oldPermic : RangeTable := .read "
  10350-1037A"

/-- Code points of the script Old Persian. -/
def oldPersian : RangeTable := .read "
  103A0-103C3 103C8-103D5"

/-- Code points of the script Old Sogdian. -/
def oldSogdian : RangeTable := .read "
  10F00-10F27"

/-- Code points of the script Old South Arabian. -/
def oldSouthArabian : RangeTable := .read "
  10A60-10A7F"

/-- Code points of the script Old Turkic. -/
def oldTurkic : RangeTable := .read "
  10C00-10C48"

/-- Code points of the script Old Uyghur. -/
def oldUyghur : RangeTable := .read "
  10F70-10F89"

/-- Code points of the script Oriya. -/
def oriya : RangeTable := .read "
  0B01-0B03 0B05-0B0C 0B0F-0B10 0B13-0B28 0B2A-0B30 0B32-0B33 0B35-0B39 0B3C-0B44 0B47-0B48
  0B4B-0B4D 0B55-0B57 0B5C-0B5D 0B5F-0B63 0B66-0B77"

/-- Code points of the script Osage. -/
def osage : RangeTable := .read "
  104B0-104D3 104D8-104FB"

/-- Code points of the script Osmanya. -/
def osmanya : RangeTable := .read "
  10480-1049D 104A0-104A9"

/-- Code points of the script Pahawh Hmong. -/
def pahawhHmong : RangeTable := .read "
  16B00-16B45 16B50-16B59 16B5B-16B61 16B63-16B77 16B7D-16B8F"

/-- Code points of the script Palmyrene. -/
def palmyrene : RangeTable := .read "
  10860-1087F"

/-- Code points of the script Pau Cin Hau. -/
def pauCinHau : RangeTable := .read "
  11AC0-11AF8"

/-- Code points of the script Phags Pa. -/
def phagsPa : RangeTable := .read "
  A840-A877"

/-- Code points of the script Phoenician. -/
def phoenician : RangeTable := .read "
  10900-1091B 1091F"

/-- Code points of the script Psalter Pahlavi. -/
def psalterPahlavi : RangeTable := .read "
  10B80-10B91 10B99-10B9C 10BA9-10BAF"

/-- Code points of the script Rejang. -/
def rejang : RangeTable := .read "
  A930-A953 A95F"

/-- Code points of the script Runic. -/
def runic : RangeTable := .read "
  16A0-16EA 16EE-16F8"

/-- Code points of the script Samaritan. -/
def samaritan : RangeTable := .read "
  0800-082D 0830-083E"

/-- Code points of the script Saurashtra. -/
def saurashtra : RangeTable := .read "
  A880-A8C5 A8CE-A8D9"

/-- Code points of the script Sharada. -/
def sharada : RangeTable := .read "
  11180-111DF"

/-- Code points of the script Shavian. -/
def shavian : RangeTable := .read "
  10450-1047F"

/-- Code points of the script Siddham. -/
def siddham : RangeTable := .read "
  11580-115B5 115B8-115DD"

/-- Code points of the script SignWriting. -/
def signwriting : RangeTable := .read "
  1D800-1DA8B 1DA9B-1DA9F 1DAA1-1DAAF"

/-- Code points of the script Sinhala. -/
def sinhala : RangeTable := .read "
  0D81-0D83 0D85-0D96 0D9A-0DB1 0DB3-0DBB 0DBD 0DC0-0DC6 0DCA 0DCF-0DD4 0DD6 0DD8-0DDF 0DE6-0DEF
  0DF2-0DF4 111E1-111F4"

/-- Code points of the script Sogdian. -/
def sogdian : RangeTable := .read "
  10F30-10F59"

/-- Code points of the script Sora Sompeng. -/
def soraSompeng : RangeTable := .read "
  110D0-110E8 110F0-110F9"

/-- Code points of the script Soyombo. -/
def soyombo : RangeTable := .read "
  11A50-11AA2"

/-- Code points of the script Sundanese. -/
def sundanese : RangeTable := .read "
  1B80-1BBF 1CC0-1CC7"

/-- Code points of the script Syloti Nagri. -/
def sylotiNagri : RangeTable := .read "
  A800-A82C"

/-- Code points of the script Syriac. -/
def syriac : RangeTable := .read "
  0700-070D 070F-074A 074D-074F 0860-086A"

/-- Code points of the script Tagalog. -/
def tagalog : RangeTable := .read "
  1700-1715 171F"

/-- Code points of the script Tagbanwa. -/
def tagbanwa : RangeTable := .read "
  1760-176C 176E-1770 1772-1773"

/-- Code points of the script Tai Le. -/
def taiLe : RangeTable := .read "
  1950-196D 1970-1974"

/-- Code points of the script Tai Tham. -/
def taiTham : RangeTable := .read "
  1A20-1A5E 1A60-1A7C 1A7F-1A89 1A90-1A99 1AA0-1AAD"

/-- Code points of the script Tai Viet. -/
def taiViet : RangeTable := .read "
  AA80-AAC2 AADB-AADF"

/-- Code points of the script Takri. -/
def takri : RangeTable := .read "
  11680-116B9 116C0-116C9"

/-- Code points of the script Tamil. -/
def tamil : RangeTable := .read "
  0B82-0B83 0B85-0B8A 0B8E-0B90 0B92-0B95 0B99-0B9A 0B9C 0B9E-0B9F 0BA3-0BA4 0BA8-0BAA 0BAE-0BB9
  0BBE-0BC2 0BC6-0BC8 0BCA-0BCD 0BD0 0BD7 0BE6-0BFA 11FC0-11FF1 11FFF"

/-- Code points of the script Tangsa. -/
def tangsa : RangeTable := .read "
  16A70-16ABE 16AC0-16AC9"

/-- Code points of the script Tangut. -/
def tangut : RangeTable := .read "
  16FE0 17000-187F7 18800-18AFF 18D00-18D08"

/-- Code points of the script Telugu. -/
def telugu : RangeTable := .read "
  0C00-0C0C 0C0E-0C10 0C12-0C28 0C2A-0C39 0C3C-0C44 0C46-0C48 0C4A-0C4D 0C55-0C56 0C58-0C5A 0C5D
  0C60-0C63 0C66-0C6F 0C77-0C7F"

/-- Code points of the script Thaana. -/
def thaana : RangeTable := .read "
  0780-07B1"

/-- Code points of the script Thai. -/
def thai : RangeTable := .read "
  0E01-0E3A 0E40-0E5B"

/-- Code points of the script Tibetan. -/
def tibetan : RangeTable := .read "
  0F00-0F47 0F49-0F6C 0F71-0F97 0F99-0FBC 0FBE-0FCC 0FCE-0FD4 0FD9-0FDA"

/-- Code points of the script Tifinagh. -/
def tifinagh : RangeTable := .read "
  2D30-2D67 2D6F-2D70 2D7F"

/-- Code points of the script Tirhuta. -/
def tirhuta : RangeTable := .read "
  11480-114C7 114D0-114D9"

/-- Code points of the script Toto. -/
def toto : RangeTable := .read "
  1E290-1E2AE"

/-- Code points of the script Ugaritic. -/
def ugaritic : RangeTable := .read "
  10380-1039D 1039F"

/-- Code points of the script Vai. -/
def vai : RangeTable := .read "
  A500-A62B"

/-- Code points of the script Vithkuqi. -/
def vithkuqi : RangeTable := .read "
  10570-1057A 1057C-1058A 1058C-10592 10594-10595 10597-105A1 105A3-105B1 105B3-105B9
  105BB-105BC"

/-- Code points of the script Wancho. -/
def wancho : RangeTable := .read "
  1E2C0-1E2F9 1E2FF"

/-- Code points of the script Warang Citi. -/
def warangCiti : RangeTable := .read "
  118A0-118F2 118FF"

/-- Code points of the script Yezidi. -/
def yezidi : RangeTable := .read "
  10E80-10EA9 10EAB-10EAD 10EB0-10EB1"

/-- Code points of the script Yi. -/
def yi : RangeTable := .read "
  A000-A48C A490-A4C6"

/-- Code points of the script Zanabazar Square. -/
def zanabazarSquare : RangeTable := .read "
  11A00-11A47"

/-! ### Names -/

/-- Scripts under their names and four-letter codes. -/
def byName : List (String × RangeTable) := [
  ("adlam", adlam), ("adlm", adlam), ("ahom", ahom),
  ("anatolianhieroglyphs", anatolianHieroglyphs), ("hluw", anatolianHieroglyphs),
  ("arab", arabic), ("arabic", arabic), ("armenian", armenian), ("armn", armenian),
  ("avestan", avestan), ("avst", avestan), ("bali", balinese), ("balinese", balinese),
  ("bamu", bamum), ("bamum", bamum), ("bass", bassaVah), ("bassavah", bassaVah), ("batak", batak),
  ("batk", batak), ("beng", bengali), ("bengali", bengali), ("bhaiksuki", bhaiksuki),
  ("bhks", bhaiksuki), ("bopo", bopomofo), ("bopomofo", bopomofo), ("brah", brahmi),
  ("brahmi", brahmi), ("brai", braille), ("braille", braille), ("bugi", buginese),
  ("buginese", buginese), ("buhd", buhid), ("buhid", buhid),
  ("canadianaboriginal", canadianAboriginal), ("cans", canadianAboriginal), ("cari", carian),
  ("carian", carian), ("aghb", caucasianAlbanian), ("caucasianalbanian", caucasianAlbanian),
  ("cakm", chakma), ("chakma", chakma), ("cham", cham), ("cher", cherokee),
  ("cherokee", cherokee), ("chorasmian", chorasmian), ("chrs", chorasmian), ("common", common),
  ("zyyy", common), ("copt", coptic), ("coptic", coptic), ("qaac", coptic),
  ("cuneiform", cuneiform), ("xsux", cuneiform), ("cprt", cypriot), ("cypriot", cypriot),
  ("cpmn", cyproMinoan), ("cyprominoan", cyproMinoan), ("cyrillic", cyrillic), ("cyrl", cyrillic),
  ("deseret", deseret), ("dsrt", deseret), ("deva", devanagari), ("devanagari", devanagari),
  ("diak", divesAkuru), ("divesakuru", divesAkuru), ("dogr", dogra), ("dogra", dogra),
  ("dupl", duployan), ("duployan", duployan), ("egyp", egyptianHieroglyphs),
  ("egyptianhieroglyphs", egyptianHieroglyphs), ("elba", elbasan), ("elbasan", elbasan),
  ("elym", elymaic), ("elymaic", elymaic), ("ethi", ethiopic), ("ethiopic", ethiopic),
  ("geor", georgian), ("georgian", georgian), ("glag", glagolitic), ("glagolitic", glagolitic),
  ("goth", gothic), ("gothic", gothic), ("gran", grantha), ("grantha", grantha), ("greek", greek),
  ("grek", greek), ("gujarati", gujarati), ("gujr", gujarati), ("gong", gunjalaGondi),
  ("gunjalagondi", gunjalaGondi), ("gurmukhi", gurmukhi), ("guru", gurmukhi), ("han", han),
  ("hani", han), ("hang", hangul), ("hangul", hangul), ("hanifirohingya", hanifiRohingya),
  ("rohg", hanifiRohingya), ("hano", hanunoo), ("hanunoo", hanunoo), ("hatr", hatran),
  ("hatran", hatran), ("hebr", hebrew), ("hebrew", hebrew), ("hira", hiragana),
  ("hiragana", hiragana), ("armi", imperialAramaic), ("imperialaramaic", imperialAramaic),
  ("inherited", inherited), ("qaai", inherited), ("zinh", inherited),
  ("inscriptionalpahlavi", inscriptionalPahlavi), ("phli", inscriptionalPahlavi),
  ("inscriptionalparthian", inscriptionalParthian), ("prti", inscriptionalParthian),
  ("java", javanese), ("javanese", javanese), ("kaithi", kaithi), ("kthi", kaithi),
  ("kannada", kannada), ("knda", kannada), ("kana", katakana), ("katakana", katakana),
  ("kawi", kawi), ("kali", kayahLi), ("kayahli", kayahLi), ("khar", kharoshthi),
  ("kharoshthi", kharoshthi), ("khitansmallscript", khitanSmallScript),
  ("kits", khitanSmallScript), ("khmer", khmer), ("khmr", khmer), ("khoj", khojki),
  ("khojki", khojki), ("khudawadi", khudawadi), ("sind", khudawadi), ("lao", lao), ("laoo", lao),
  ("latin", latin), ("latn", latin), ("lepc", lepcha), ("lepcha", lepcha), ("limb", limbu),
  ("limbu", limbu), ("lina", linearA), ("lineara", linearA), ("linb", linearB),
  ("linearb", linearB), ("lisu", lisu), ("lyci", lycian), ("lycian", lycian), ("lydi", lydian),
  ("lydian", lydian), ("mahajani", mahajani), ("mahj", mahajani), ("maka", makasar),
  ("makasar", makasar), ("malayalam", malayalam), ("mlym", malayalam), ("mand", mandaic),
  ("mandaic", mandaic), ("mani", manichaean), ("manichaean", manichaean), ("marc", marchen),
  ("marchen", marchen), ("gonm", masaramGondi), ("masaramgondi", masaramGondi),
  ("medefaidrin", medefaidrin), ("medf", medefaidrin), ("meeteimayek", meeteiMayek),
  ("mtei", meeteiMayek), ("mend", mendeKikakui), ("mendekikakui", mendeKikakui),
  ("merc", meroiticCursive), ("meroiticcursive", meroiticCursive), ("mero", meroiticHieroglyphs),
  ("meroitichieroglyphs", meroiticHieroglyphs), ("miao", miao), ("plrd", miao), ("modi", modi),
  ("mong", mongolian), ("mongolian", mongolian), ("mro", mro), ("mroo", mro), ("mult", multani),
  ("multani", multani), ("myanmar", myanmar), ("mymr", myanmar), ("nabataean", nabataean),
  ("nbat", nabataean), ("nagm", nagMundari), ("nagmundari", nagMundari), ("nand", nandinagari),
  ("nandinagari", nandinagari), ("newtailue", newTaiLue), ("talu", newTaiLue), ("newa", newa),
  ("nko", nko), ("nkoo", nko), ("nshu", nushu), ("nushu", nushu), ("hmnp", nyiakengPuachueHmong),
  ("nyiakengpuachuehmong", nyiakengPuachueHmong), ("ogam", ogham), ("ogham", ogham),
  ("olchiki", olChiki), ("olck", olChiki), ("hung", oldHungarian), ("oldhungarian", oldHungarian),
  ("ital", oldItalic), ("olditalic", oldItalic), ("narb", oldNorthArabian),
  ("oldnortharabian", oldNorthArabian), ("oldpermic", oldPermic), ("perm", oldPermic),
  ("oldpersian", oldPersian), ("xpeo", oldPersian), ("oldsogdian", oldSogdian),
  ("sogo", oldSogdian), ("oldsoutharabian", oldSouthArabian), ("sarb", oldSouthArabian),
  ("oldturkic", oldTurkic), ("orkh", oldTurkic), ("olduyghur", oldUyghur), ("ougr", oldUyghur),
  ("oriya", oriya), ("orya", oriya), ("osage", osage), ("osge", osage), ("osma", osmanya),
  ("osmanya", osmanya), ("hmng", pahawhHmong), ("pahawhhmong", pahawhHmong), ("palm", palmyrene),
  ("palmyrene", palmyrene), ("pauc", pauCinHau), ("paucinhau", pauCinHau), ("phag", phagsPa),
  ("phagspa", phagsPa), ("phnx", phoenician), ("phoenician", phoenician),
  ("phlp", psalterPahlavi), ("psalterpahlavi", psalterPahlavi), ("rejang", rejang),
  ("rjng", rejang), ("runic", runic), ("runr", runic), ("samaritan", samaritan),
  ("samr", samaritan), ("saur", saurashtra), ("saurashtra", saurashtra), ("sharada", sharada),
  ("shrd", sharada), ("shavian", shavian), ("shaw", shavian), ("sidd", siddham),
  ("siddham", siddham), ("sgnw", signwriting), ("signwriting", signwriting), ("sinh", sinhala),
  ("sinhala", sinhala), ("sogd", sogdian), ("sogdian", sogdian), ("sora", soraSompeng),
  ("sorasompeng", soraSompeng), ("soyo", soyombo), ("soyombo", soyombo), ("sund", sundanese),
  ("sundanese", sundanese), ("sylo", sylotiNagri), ("sylotinagri", sylotiNagri), ("syrc", syriac),
  ("syriac", syriac), ("tagalog", tagalog), ("tglg", tagalog), ("tagb", tagbanwa),
  ("tagbanwa", tagbanwa), ("taile", taiLe), ("tale", taiLe), ("lana", taiTham),
  ("taitham", taiTham), ("taiviet", taiViet), ("tavt", taiViet), ("takr", takri),
  ("takri", takri), ("tamil", tamil), ("taml", tamil), ("tangsa", tangsa), ("tnsa", tangsa),
  ("tang", tangut), ("tangut", tangut), ("telu", telugu), ("telugu", telugu), ("thaa", thaana),
  ("thaana", thaana), ("thai", thai), ("tibetan", tibetan), ("tibt", tibetan), ("tfng", tifinagh),
  ("tifinagh", tifinagh), ("tirh", tirhuta), ("tirhuta", tirhuta), ("toto", toto),
  ("ugar", ugaritic), ("ugaritic", ugaritic), ("vai", vai), ("vaii", vai), ("vith", vithkuqi),
  ("vithkuqi", vithkuqi), ("wancho", wancho), ("wcho", wancho), ("wara", warangCiti),
  ("warangciti", warangCiti), ("yezi", yezidi), ("yezidi", yezidi), ("yi", yi), ("yiii", yi),
  ("zanabazarsquare", zanabazarSquare), ("zanb", zanabazarSquare)]

/-! ### Extensions -/

/-- Code points of other scripts that adlam uses too. -/
def adlamFurther : RangeTable := .read "
  061F 0640"

/-- Code points of other scripts that arabic uses too. -/
def arabicFurther : RangeTable := .read "
  060C 061B 061F 0640 064B-0655 0670 FD3E-FD3F 102E0-102FB"

/-- Code points of other scripts that bengali uses too. -/
def bengaliFurther : RangeTable := .read "
  0951-0952 0964-0965 1CD0 1CD2 1CD5-1CD6 1CD8 1CE1 1CEA 1CED 1CF2 1CF5-1CF7 A8F1"

/-- Code points of other scripts that bopomofo uses too. -/
def bopomofoFurther : RangeTable := .read "
  3001-3003 3008-3011 3013-301F 302A-302D 3030 3037 30FB FE45-FE46 FF61-FF65"

/-- Code points of other scripts that buginese uses too. -/
def bugineseFurther : RangeTable := .read "
  A9CF"

/-- Code points of other scripts that buhid uses too. -/
def buhidFurther : RangeTable := .read "
  1735-1736"

/-- Code points of other scripts that chakma uses too. -/
def chakmaFurther : RangeTable := .read "
  09E6-09EF 1040-1049"

/-- Code points of common that count for other scripts. -/
def commonElsewhere : RangeTable := .read "
  060C 061B 061F 0640 0964-0965 10FB 1735-1736 1802-1803 1805 1CD3 1CE1 1CE9-1CEC 1CEE-1CF3
  1CF5-1CF7 1CFA 202F 2E43 3001-3003 3006 3008-3011 3013-301F 3030-3035 3037 303C-303F 309B-309C
  30A0 30FB-30FC 3190-319F 31C0-31E3 3220-3247 3280-32B0 32C0-32CB 32FF 3358-3370 337B-337F
  33E0-33FE A700-A707 A830-A839 A92E A9CF FD3E-FD3F FE45-FE46 FF61-FF65 FF70 FF9E-FF9F
  10100-10102 10107-10133 10137-1013F 102E1-102FB 1BCA0-1BCA3 1D360-1D371 1F250-1F251"

/-- Code points of other scripts that coptic uses too. -/
def copticFurther : RangeTable := .read "
  102E0-102FB"

/-- Code points of other scripts that cypriot uses too. -/
def cypriotFurther : RangeTable := .read "
  10100-10102 10107-10133 10137-1013F"

/-- Code points of other scripts that cyproMinoan uses too. -/
def cyproMinoanFurther : RangeTable := .read "
  10100-10101"

/-- Code points of other scripts that cyrillic uses too. -/
def cyrillicFurther : RangeTable := .read "
  0485-0486 1DF8 2E43"

/-- Code points of other scripts that devanagari uses too. -/
def devanagariFurther : RangeTable := .read "
  0951-0952 0964-0965 1CD0-1CF6 1CF8-1CF9 20F0 A830-A839"

/-- Code points of other scripts that dogra uses too. -/
def dograFurther : RangeTable := .read "
  0964-096F A830-A839"

/-- Code points of other scripts that duployan uses too. -/
def duployanFurther : RangeTable := .read "
  1BCA0-1BCA3"

/-- Code points of other scripts that georgian uses too. -/
def georgianFurther : RangeTable := .read "
  10FB"

/-- Code points of other scripts that glagolitic uses too. -/
def glagoliticFurther : RangeTable := .read "
  0484 0487 2E43 A66F"

/-- Code points of other scripts that grantha uses too. -/
def granthaFurther : RangeTable := .read "
  0951-0952 0964-0965 0BE6-0BF3 1CD0 1CD2-1CD3 1CF2-1CF4 1CF8-1CF9 20F0 1133B 11FD0-11FD1 11FD3"

/-- Code points of other scripts that greek uses too. -/
def greekFurther : RangeTable := .read "
  0342 0345 1DC0-1DC1"

/-- Code points of other scripts that gujarati uses too. -/
def gujaratiFurther : RangeTable := .read "
  0951-0952 0964-0965 A830-A839"

/-- Code points of other scripts that gunjalaGondi uses too. -/
def gunjalaGondiFurther : RangeTable := .read "
  0964-0965"

/-- Code points of other scripts that gurmukhi uses too. -/
def gurmukhiFurther : RangeTable := .read "
  0951-0952 0964-0965 A830-A839"

/-- Code points of other scripts that han uses too. -/
def hanFurther : RangeTable := .read "
  3001-3003 3006 3008-3011 3013-301F 302A-302D 3030 3037 303C-303F 30FB 3190-319F 31C0-31E3
  3220-3247 3280-32B0 32C0-32CB 32FF 3358-3370 337B-337F 33E0-33FE A700-A707 FE45-FE46 FF61-FF65
  1D360-1D371 1F250-1F251"

/-- Code points of other scripts that hangul uses too. -/
def hangulFurther : RangeTable := .read "
  3001-3003 3008-3011 3013-301F 3030 3037 30FB FE45-FE46 FF61-FF65"

/-- Code points of other scripts that hanifiRohingya uses too. -/
def hanifiRohingyaFurther : RangeTable := .read "
  060C 061B 061F 0640 06D4"

/-- Code points of other scripts that hanunoo uses too. -/
def hanunooFurther : RangeTable := .read "
  1735-1736"

/-- Code points of other scripts that hiragana uses too. -/
def hiraganaFurther : RangeTable := .read "
  3001-3003 3008-3011 3013-301F 3030-3035 3037 303C-303D 3099-309C 30A0 30FB-30FC FE45-FE46
  FF61-FF65 FF70 FF9E-FF9F"

/-- Code points of inherited that count for other scripts. -/
def inheritedElsewhere : RangeTable := .read "
  0342 0345 0363-036F 0485-0486 064B-0655 0670 0951-0952 1CD0-1CD2 1CD4-1CE0 1CE2-1CE8 1CED 1CF4
  1CF8-1CF9 1DC0-1DC1 1DF8 1DFA 20F0 302A-302D 3099-309A 102E0 1133B"

/-- Code points of other scripts that javanese uses too. -/
def javaneseFurther : RangeTable := .read "
  A9CF"

/-- Code points of other scripts that kaithi uses too. -/
def kaithiFurther : RangeTable := .read "
  0966-096F A830-A839"

/-- Code points of other scripts that kannada uses too. -/
def kannadaFurther : RangeTable := .read "
  0951-0952 0964-0965 1CD0 1CD2 1CDA 1CF2 1CF4 A830-A835"

/-- Code points of other scripts that katakana uses too. -/
def katakanaFurther : RangeTable := .read "
  3001-3003 3008-3011 3013-301F 3030-3035 3037 303C-303D 3099-309C 30A0 30FB-30FC FE45-FE46
  FF61-FF65 FF70 FF9E-FF9F"

/-- Code points of other scripts that kayahLi uses too. -/
def kayahLiFurther : RangeTable := .read "
  A92E"

/-- Code points of other scripts that khojki uses too. -/
def khojkiFurther : RangeTable := .read "
  0AE6-0AEF A830-A839"

/-- Code points of other scripts that khudawadi uses too. -/
def khudawadiFurther : RangeTable := .read "
  0964-0965 A830-A839"

/-- Code points of other scripts that latin uses too. -/
def latinFurther : RangeTable := .read "
  0363-036F 0485-0486 0951-0952 10FB 202F 20F0 A700-A707 A92E"

/-- Code points of other scripts that limbu uses too. -/
def limbuFurther : RangeTable := .read "
  0965"

/-- Code points of other scripts that linearA uses too. -/
def linearAFurther : RangeTable := .read "
  10107-10133"

/-- Code points of other scripts that linearB uses too. -/
def linearBFurther : RangeTable := .read "
  10100-10102 10107-10133 10137-1013F"

/-- Code points of other scripts that mahajani uses too. -/
def mahajaniFurther : RangeTable := .read "
  0964-096F A830-A839"

/-- Code points of other scripts that malayalam uses too. -/
def malayalamFurther : RangeTable := .read "
  0951-0952 0964-0965 1CDA A830-A832"

/-- Code points of other scripts that mandaic uses too. -/
def mandaicFurther : RangeTable := .read "
  0640"

/-- Code points of other scripts that manichaean uses too. -/
def manichaeanFurther : RangeTable := .read "
  0640"

/-- Code points of other scripts that masaramGondi uses too. -/
def masaramGondiFurther : RangeTable := .read "
  0964-0965"

/-- Code points of other scripts that modi uses too. -/
def modiFurther : RangeTable := .read "
  A830-A839"

/-- Code points of other scripts that mongolian uses too. -/
def mongolianFurther : RangeTable := .read "
  1802-1803 1805 202F"

/-- Code points of other scripts that multani uses too. -/
def multaniFurther : RangeTable := .read "
  0A66-0A6F"

/-- Code points of other scripts that myanmar uses too. -/
def myanmarFurther : RangeTable := .read "
  A92E"

/-- Code points of other scripts that nandinagari uses too. -/
def nandinagariFurther : RangeTable := .read "
  0964-0965 0CE6-0CEF 1CE9 1CF2 1CFA A830-A835"

/-- Code points of other scripts that nko uses too. -/
def nkoFurther : RangeTable := .read "
  060C 061B 061F FD3E-FD3F"

/-- Code points of other scripts that oldPermic uses too. -/
def oldPermicFurther : RangeTable := .read "
  0483"

/-- Code points of other scripts that oldUyghur uses too. -/
def oldUyghurFurther : RangeTable := .read "
  0640 10AF2"

/-- Code points of other scripts that oriya uses too. -/
def oriyaFurther : RangeTable := .read "
  0951-0952 0964-0965 1CDA 1CF2"

/-- Code points of other scripts that phagsPa uses too. -/
def phagsPaFurther : RangeTable := .read "
  1802-1803 1805"

/-- Code points of other scripts that psalterPahlavi uses too. -/
def psalterPahlaviFurther : RangeTable := .read "
  0640"

/-- Code points of other scripts that sharada uses too. -/
def sharadaFurther : RangeTable := .read "
  0951 1CD7 1CD9 1CDC-1CDD 1CE0"

/-- Code points of other scripts that sinhala uses too. -/
def sinhalaFurther : RangeTable := .read "
  0964-0965"

/-- Code points of other scripts that sogdian uses too. -/
def sogdianFurther : RangeTable := .read "
  0640"

/-- Code points of other scripts that sylotiNagri uses too. -/
def sylotiNagriFurther : RangeTable := .read "
  0964-0965 09E6-09EF"

/-- Code points of other scripts that syriac uses too. -/
def syriacFurther : RangeTable := .read "
  060C 061B-061C 061F 0640 064B-0655 0670 1DF8 1DFA"

/-- Code points of other scripts that tagalog uses too. -/
def tagalogFurther : RangeTable := .read "
  1735-1736"

/-- Code points of other scripts that tagbanwa uses too. -/
def tagbanwaFurther : RangeTable := .read "
  1735-1736"

/-- Code points of other scripts that taiLe uses too. -/
def taiLeFurther : RangeTable := .read "
  1040-1049"

/-- Code points of other scripts that takri uses too. -/
def takriFurther : RangeTable := .read "
  0964-0965 A830-A839"

/-- Code points of other scripts that tamil uses too. -/
def tamilFurther : RangeTable := .read "
  0951-0952 0964-0965 1CDA A8F3 11301 11303 1133B-1133C"

/-- Code points of other scripts that telugu uses too. -/
def teluguFurther : RangeTable := .read "
  0951-0952 0964-0965 1CDA 1CF2"

/-- Code points of other scripts that thaana uses too. -/
def thaanaFurther : RangeTable := .read "
  060C 061B-061C 061F 0660-0669 FDF2 FDFD"

/-- Code points of other scripts that tirhuta uses too. -/
def tirhutaFurther : RangeTable := .read "
  0951-0952 0964-0965 1CF2 A830-A839"

/-- Code points of other scripts that yezidi uses too. -/
def yezidiFurther : RangeTable := .read "
  060C 061B 061F 0660-0669"

/-- Code points of other scripts that yi uses too. -/
def yiFurther : RangeTable := .read "
  3001-3002 3008-3011 3014-301B 30FB FF61-FF65"

/-- The code points in use in a script, where they differ from those that belong to it. -/
def extensions : List (String × CodeSet) := [
  ("adlam", .of [adlam, adlamFurther]),
  ("adlm", .of [adlam, adlamFurther]),
  ("arab", .of [arabic, arabicFurther]),
  ("arabic", .of [arabic, arabicFurther]),
  ("beng", .of [bengali, bengaliFurther]),
  ("bengali", .of [bengali, bengaliFurther]),
  ("bopo", .of [bopomofo, bopomofoFurther]),
  ("bopomofo", .of [bopomofo, bopomofoFurther]),
  ("bugi", .of [buginese, bugineseFurther]),
  ("buginese", .of [buginese, bugineseFurther]),
  ("buhd", .of [buhid, buhidFurther]),
  ("buhid", .of [buhid, buhidFurther]),
  ("cakm", .of [chakma, chakmaFurther]),
  ("chakma", .of [chakma, chakmaFurther]),
  ("common", CodeSet.without (.of [common]) [commonElsewhere]),
  ("zyyy", CodeSet.without (.of [common]) [commonElsewhere]),
  ("copt", .of [coptic, copticFurther]),
  ("coptic", .of [coptic, copticFurther]),
  ("qaac", .of [coptic, copticFurther]),
  ("cprt", .of [cypriot, cypriotFurther]),
  ("cypriot", .of [cypriot, cypriotFurther]),
  ("cpmn", .of [cyproMinoan, cyproMinoanFurther]),
  ("cyprominoan", .of [cyproMinoan, cyproMinoanFurther]),
  ("cyrillic", .of [cyrillic, cyrillicFurther]),
  ("cyrl", .of [cyrillic, cyrillicFurther]),
  ("deva", .of [devanagari, devanagariFurther]),
  ("devanagari", .of [devanagari, devanagariFurther]),
  ("dogr", .of [dogra, dograFurther]),
  ("dogra", .of [dogra, dograFurther]),
  ("dupl", .of [duployan, duployanFurther]),
  ("duployan", .of [duployan, duployanFurther]),
  ("geor", .of [georgian, georgianFurther]),
  ("georgian", .of [georgian, georgianFurther]),
  ("glag", .of [glagolitic, glagoliticFurther]),
  ("glagolitic", .of [glagolitic, glagoliticFurther]),
  ("gran", .of [grantha, granthaFurther]),
  ("grantha", .of [grantha, granthaFurther]),
  ("greek", .of [greek, greekFurther]),
  ("grek", .of [greek, greekFurther]),
  ("gujarati", .of [gujarati, gujaratiFurther]),
  ("gujr", .of [gujarati, gujaratiFurther]),
  ("gong", .of [gunjalaGondi, gunjalaGondiFurther]),
  ("gunjalagondi", .of [gunjalaGondi, gunjalaGondiFurther]),
  ("gurmukhi", .of [gurmukhi, gurmukhiFurther]),
  ("guru", .of [gurmukhi, gurmukhiFurther]),
  ("han", .of [han, hanFurther]),
  ("hani", .of [han, hanFurther]),
  ("hang", .of [hangul, hangulFurther]),
  ("hangul", .of [hangul, hangulFurther]),
  ("hanifirohingya", .of [hanifiRohingya, hanifiRohingyaFurther]),
  ("rohg", .of [hanifiRohingya, hanifiRohingyaFurther]),
  ("hano", .of [hanunoo, hanunooFurther]),
  ("hanunoo", .of [hanunoo, hanunooFurther]),
  ("hira", .of [hiragana, hiraganaFurther]),
  ("hiragana", .of [hiragana, hiraganaFurther]),
  ("inherited", CodeSet.without (.of [inherited]) [inheritedElsewhere]),
  ("qaai", CodeSet.without (.of [inherited]) [inheritedElsewhere]),
  ("zinh", CodeSet.without (.of [inherited]) [inheritedElsewhere]),
  ("java", .of [javanese, javaneseFurther]),
  ("javanese", .of [javanese, javaneseFurther]),
  ("kaithi", .of [kaithi, kaithiFurther]),
  ("kthi", .of [kaithi, kaithiFurther]),
  ("kannada", .of [kannada, kannadaFurther]),
  ("knda", .of [kannada, kannadaFurther]),
  ("kana", .of [katakana, katakanaFurther]),
  ("katakana", .of [katakana, katakanaFurther]),
  ("kali", .of [kayahLi, kayahLiFurther]),
  ("kayahli", .of [kayahLi, kayahLiFurther]),
  ("khoj", .of [khojki, khojkiFurther]),
  ("khojki", .of [khojki, khojkiFurther]),
  ("khudawadi", .of [khudawadi, khudawadiFurther]),
  ("sind", .of [khudawadi, khudawadiFurther]),
  ("latin", .of [latin, latinFurther]),
  ("latn", .of [latin, latinFurther]),
  ("limb", .of [limbu, limbuFurther]),
  ("limbu", .of [limbu, limbuFurther]),
  ("lina", .of [linearA, linearAFurther]),
  ("lineara", .of [linearA, linearAFurther]),
  ("linb", .of [linearB, linearBFurther]),
  ("linearb", .of [linearB, linearBFurther]),
  ("mahajani", .of [mahajani, mahajaniFurther]),
  ("mahj", .of [mahajani, mahajaniFurther]),
  ("malayalam", .of [malayalam, malayalamFurther]),
  ("mlym", .of [malayalam, malayalamFurther]),
  ("mand", .of [mandaic, mandaicFurther]),
  ("mandaic", .of [mandaic, mandaicFurther]),
  ("mani", .of [manichaean, manichaeanFurther]),
  ("manichaean", .of [manichaean, manichaeanFurther]),
  ("gonm", .of [masaramGondi, masaramGondiFurther]),
  ("masaramgondi", .of [masaramGondi, masaramGondiFurther]),
  ("modi", .of [modi, modiFurther]),
  ("mong", .of [mongolian, mongolianFurther]),
  ("mongolian", .of [mongolian, mongolianFurther]),
  ("mult", .of [multani, multaniFurther]),
  ("multani", .of [multani, multaniFurther]),
  ("myanmar", .of [myanmar, myanmarFurther]),
  ("mymr", .of [myanmar, myanmarFurther]),
  ("nand", .of [nandinagari, nandinagariFurther]),
  ("nandinagari", .of [nandinagari, nandinagariFurther]),
  ("nko", .of [nko, nkoFurther]),
  ("nkoo", .of [nko, nkoFurther]),
  ("oldpermic", .of [oldPermic, oldPermicFurther]),
  ("perm", .of [oldPermic, oldPermicFurther]),
  ("olduyghur", .of [oldUyghur, oldUyghurFurther]),
  ("ougr", .of [oldUyghur, oldUyghurFurther]),
  ("oriya", .of [oriya, oriyaFurther]),
  ("orya", .of [oriya, oriyaFurther]),
  ("phag", .of [phagsPa, phagsPaFurther]),
  ("phagspa", .of [phagsPa, phagsPaFurther]),
  ("phlp", .of [psalterPahlavi, psalterPahlaviFurther]),
  ("psalterpahlavi", .of [psalterPahlavi, psalterPahlaviFurther]),
  ("sharada", .of [sharada, sharadaFurther]),
  ("shrd", .of [sharada, sharadaFurther]),
  ("sinh", .of [sinhala, sinhalaFurther]),
  ("sinhala", .of [sinhala, sinhalaFurther]),
  ("sogd", .of [sogdian, sogdianFurther]),
  ("sogdian", .of [sogdian, sogdianFurther]),
  ("sylo", .of [sylotiNagri, sylotiNagriFurther]),
  ("sylotinagri", .of [sylotiNagri, sylotiNagriFurther]),
  ("syrc", .of [syriac, syriacFurther]),
  ("syriac", .of [syriac, syriacFurther]),
  ("tagalog", .of [tagalog, tagalogFurther]),
  ("tglg", .of [tagalog, tagalogFurther]),
  ("tagb", .of [tagbanwa, tagbanwaFurther]),
  ("tagbanwa", .of [tagbanwa, tagbanwaFurther]),
  ("taile", .of [taiLe, taiLeFurther]),
  ("tale", .of [taiLe, taiLeFurther]),
  ("takr", .of [takri, takriFurther]),
  ("takri", .of [takri, takriFurther]),
  ("tamil", .of [tamil, tamilFurther]),
  ("taml", .of [tamil, tamilFurther]),
  ("telu", .of [telugu, teluguFurther]),
  ("telugu", .of [telugu, teluguFurther]),
  ("thaa", .of [thaana, thaanaFurther]),
  ("thaana", .of [thaana, thaanaFurther]),
  ("tirh", .of [tirhuta, tirhutaFurther]),
  ("tirhuta", .of [tirhuta, tirhutaFurther]),
  ("yezi", .of [yezidi, yezidiFurther]),
  ("yezidi", .of [yezidi, yezidiFurther]),
  ("yi", .of [yi, yiFurther]),
  ("yiii", .of [yi, yiFurther])]

end Classpath.Unicode.Script
