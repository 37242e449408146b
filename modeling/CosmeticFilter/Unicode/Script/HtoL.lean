/-
The scripts whose names start with H to L.
-/
import CosmeticFilter.Unicode.NamedSet

namespace CosmeticFilter.Unicode.Script

def hangul : Script where
  names := ["Hang", "Hangul"]
  set := .ofLines
    ["1100-11FF 302E-302F 3131-318E 3200-321E 3260-327E A960-A97C AC00-D7A3 D7B0-D7C6 D7CB-D7FB",
     "FFA0-FFBE FFC2-FFC7 FFCA-FFCF FFD2-FFD7 FFDA-FFDC"]
  shared := .ofLines ["3001-3003 3008-3011 3013-301F 3030 3037 30FB FE45-FE46 FF61-FF65"]

def hani : Script where
  names := ["Hani", "Han"]
  set := .ofLines
    ["2E80-2E99 2E9B-2EF3 2F00-2FD5 3005 3007 3021-3029 3038-303B 3400-4DBF 4E00-9FFF F900-FA6D",
     "FA70-FAD9 16FE2-16FE3 16FF0-16FF1 20000-2A6DF 2A700-2B739 2B740-2B81D 2B820-2CEA1",
     "2CEB0-2EBE0 2EBF0-2EE5D 2F800-2FA1D 30000-3134A 31350-323AF"]
  shared := .ofLines
    ["B7 2FF0-2FFF 3001-3003 3006 3008-3011 3013-301F 302A-302D 3030 3037 303C-303F 30FB",
     "3190-319F 31C0-31E5 31EF 3220-3247 3280-32B0 32C0-32CB 32FF 3358-3370 337B-337F 33E0-33FE",
     "A700-A707 FE45-FE46 FF61-FF65 1D360-1D371 1F250-1F251"]

def hanifiRohingya : Script where
  names := ["Rohg", "Hanifi_Rohingya"]
  set := .ofLines ["10D00-10D27 10D30-10D39"]
  shared := .ofLines ["60C 61B 61F 640 6D4"]

def hanunoo : Script where
  names := ["Hano", "Hanunoo"]
  set := .ofLines ["1720-1734"]
  shared := .ofLines ["1735-1736"]

def hatran : Script where
  names := ["Hatr", "Hatran"]
  set := .ofLines ["108E0-108F2 108F4-108F5 108FB-108FF"]

def hebrew : Script where
  names := ["Hebr", "Hebrew"]
  set := .ofLines
    ["591-5C7 5D0-5EA 5EF-5F4 FB1D-FB36 FB38-FB3C FB3E FB40-FB41 FB43-FB44 FB46-FB4F"]
  shared := .ofLines ["307-308"]

def hiragana : Script where
  names := ["Hira", "Hiragana"]
  set := .ofLines ["3041-3096 309D-309F 1B001-1B11F 1B132 1B150-1B152 1F200"]
  shared := .ofLines
    ["3001-3003 3008-3011 3013-301F 3030-3035 3037 303C-303D 3099-309C 30A0 30FB-30FC FE45-FE46",
     "FF61-FF65 FF70 FF9E-FF9F"]

def imperialAramaic : Script where
  names := ["Armi", "Imperial_Aramaic"]
  set := .ofLines ["10840-10855 10857-1085F"]

def inherited : Script where
  names := ["Zinh", "Qaai", "Inherited"]
  set := .ofLines
    ["300-36F 485-486 64B-655 670 951-954 1AB0-1ACE 1CD0-1CD2 1CD4-1CE0 1CE2-1CE8 1CED 1CF4",
     "1CF8-1CF9 1DC0-1DFF 200C-200D 20D0-20F0 302A-302D 3099-309A FE00-FE0F FE20-FE2D 101FD 102E0",
     "1133B 1CF00-1CF2D 1CF30-1CF46 1D167-1D169 1D17B-1D182 1D185-1D18B 1D1AA-1D1AD E0100-E01EF"]

def inscriptionalPahlavi : Script where
  names := ["Phli", "Inscriptional_Pahlavi"]
  set := .ofLines ["10B60-10B72 10B78-10B7F"]

def inscriptionalParthian : Script where
  names := ["Prti", "Inscriptional_Parthian"]
  set := .ofLines ["10B40-10B55 10B58-10B5F"]

def javanese : Script where
  names := ["Java", "Javanese"]
  set := .ofLines ["A980-A9CD A9D0-A9D9 A9DE-A9DF"]
  shared := .ofLines ["A9CF"]

def kaithi : Script where
  names := ["Kthi", "Kaithi"]
  set := .ofLines ["11080-110C2 110CD"]
  shared := .ofLines ["966-96F 2E31 A830-A839"]

def kannada : Script where
  names := ["Knda", "Kannada"]
  set := .ofLines
    ["C80-C8C C8E-C90 C92-CA8 CAA-CB3 CB5-CB9 CBC-CC4 CC6-CC8 CCA-CCD CD5-CD6 CDD-CDE CE0-CE3",
     "CE6-CEF CF1-CF3"]
  shared := .ofLines ["951-952 964-965 1CD0 1CD2-1CD3 1CDA 1CF2 1CF4 A830-A835"]

def katakana : Script where
  names := ["Kana", "Katakana"]
  set := .ofLines
    ["30A1-30FA 30FD-30FF 31F0-31FF 32D0-32FE 3300-3357 FF66-FF6F FF71-FF9D 1AFF0-1AFF3",
     "1AFF5-1AFFB 1AFFD-1AFFE 1B000 1B120-1B122 1B155 1B164-1B167"]
  shared := .ofLines
    ["305 323 3001-3003 3008-3011 3013-301F 3030-3035 3037 303C-303D 3099-309C 30A0 30FB-30FC",
     "FE45-FE46 FF61-FF65 FF70 FF9E-FF9F"]

def kawi : Script where
  names := ["Kawi"]
  set := .ofLines ["11F00-11F10 11F12-11F3A 11F3E-11F5A"]

def kayahLi : Script where
  names := ["Kali", "Kayah_Li"]
  set := .ofLines ["A900-A92D A92F"]
  shared := .ofLines ["A92E"]

def kharoshthi : Script where
  names := ["Khar", "Kharoshthi"]
  set := .ofLines
    ["10A00-10A03 10A05-10A06 10A0C-10A13 10A15-10A17 10A19-10A35 10A38-10A3A 10A3F-10A48",
     "10A50-10A58"]

def khitanSmallScript : Script where
  names := ["Kits", "Khitan_Small_Script"]
  set := .ofLines ["16FE4 18B00-18CD5 18CFF"]

def khmer : Script where
  names := ["Khmr", "Khmer"]
  set := .ofLines ["1780-17DD 17E0-17E9 17F0-17F9 19E0-19FF"]

def khojki : Script where
  names := ["Khoj", "Khojki"]
  set := .ofLines ["11200-11211 11213-11241"]
  shared := .ofLines ["AE6-AEF A830-A839"]

def khudawadi : Script where
  names := ["Sind", "Khudawadi"]
  set := .ofLines ["112B0-112EA 112F0-112F9"]
  shared := .ofLines ["964-965 A830-A839"]

def kiratRai : Script where
  names := ["Krai", "Kirat_Rai"]
  set := .ofLines ["16D40-16D79"]

def laoo : Script where
  names := ["Laoo", "Lao"]
  set := .ofLines
    ["E81-E82 E84 E86-E8A E8C-EA3 EA5 EA7-EBD EC0-EC4 EC6 EC8-ECE ED0-ED9 EDC-EDF"]

def latin : Script where
  names := ["Latn", "Latin"]
  set := .ofLines
    ["41-5A 61-7A AA BA C0-D6 D8-F6 F8-2B8 2E0-2E4 1D00-1D25 1D2C-1D5C 1D62-1D65 1D6B-1D77",
     "1D79-1DBE 1E00-1EFF 2071 207F 2090-209C 212A-212B 2132 214E 2160-2188 2C60-2C7F A722-A787",
     "A78B-A7CD A7D0-A7D1 A7D3 A7D5-A7DC A7F2-A7FF AB30-AB5A AB5C-AB64 AB66-AB69 FB00-FB06",
     "FF21-FF3A FF41-FF5A 10780-10785 10787-107B0 107B2-107BA 1DF00-1DF1E 1DF25-1DF2A"]
  shared := .ofLines
    ["B7 2BC 2C7 2C9-2CB 2CD 2D7 2D9 300-30E 310-311 313 323-325 32D-32E 330-331 358 35E 363-36F",
     "485-486 951-952 10FB 1DF8 202F 20F0 2E17 A700-A707 A92E"]

def lepcha : Script where
  names := ["Lepc", "Lepcha"]
  set := .ofLines ["1C00-1C37 1C3B-1C49 1C4D-1C4F"]

def limbu : Script where
  names := ["Limb", "Limbu"]
  set := .ofLines ["1900-191E 1920-192B 1930-193B 1940 1944-194F"]
  shared := .ofLines ["965"]

def linearA : Script where
  names := ["Lina", "Linear_A"]
  set := .ofLines ["10600-10736 10740-10755 10760-10767"]
  shared := .ofLines ["10107-10133"]

def linearB : Script where
  names := ["Linb", "Linear_B"]
  set := .ofLines
    ["10000-1000B 1000D-10026 10028-1003A 1003C-1003D 1003F-1004D 10050-1005D 10080-100FA"]
  shared := .ofLines ["10100-10102 10107-10133 10137-1013F"]

def lisu : Script where
  names := ["Lisu"]
  set := .ofLines ["A4D0-A4FF 11FB0"]
  shared := .ofLines ["2BC 2CD 300A-300B"]

def lycian : Script where
  names := ["Lyci", "Lycian"]
  set := .ofLines ["10280-1029C"]
  shared := .ofLines ["205A"]

def lydian : Script where
  names := ["Lydi", "Lydian"]
  set := .ofLines ["10920-10939 1093F"]
  shared := .ofLines ["B7 2E31"]

/-- The scripts of this module. -/
def allHtoL : List Script :=
  [hangul, hani, hanifiRohingya, hanunoo, hatran, hebrew, hiragana, imperialAramaic, inherited,
   inscriptionalPahlavi, inscriptionalParthian, javanese, kaithi, kannada, katakana, kawi,
   kayahLi, kharoshthi, khitanSmallScript, khmer, khojki, khudawadi, kiratRai, laoo, latin,
   lepcha, limbu, linearA, linearB, lisu, lycian, lydian]

end CosmeticFilter.Unicode.Script
