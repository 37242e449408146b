/-
The scripts whose names start with A to G.
-/
import CosmeticFilter.Unicode.NamedSet

namespace CosmeticFilter.Unicode.Script

def adlam : Script where
  names := ["Adlm", "Adlam"]
  set := .ofLines ["1E900-1E94B 1E950-1E959 1E95E-1E95F"]
  shared := .ofLines ["61F 640 204F 2E41"]

def ahom : Script where
  names := ["Ahom"]
  set := .ofLines ["11700-1171A 1171D-1172B 11730-11746"]

def anatolianHieroglyphs : Script where
  names := ["Hluw", "Anatolian_Hieroglyphs"]
  set := .ofLines ["14400-14646"]

def arabic : Script where
  names := ["Arab", "Arabic"]
  set := .ofLines
    ["600-604 606-60B 60D-61A 61C-61E 620-63F 641-64A 656-66F 671-6DC 6DE-6FF 750-77F 870-88E",
     "890-891 897-8E1 8E3-8FF FB50-FBC2 FBD3-FD3D FD40-FD8F FD92-FDC7 FDCF FDF0-FDFF FE70-FE74",
     "FE76-FEFC 10E60-10E7E 10EC2-10EC4 10EFC-10EFF 1EE00-1EE03 1EE05-1EE1F 1EE21-1EE22 1EE24",
     "1EE27 1EE29-1EE32 1EE34-1EE37 1EE39 1EE3B 1EE42 1EE47-1EE4B/2 1EE4D-1EE4F 1EE51-1EE52 1EE54",
     "1EE57-1EE5F/2 1EE61-1EE62 1EE64 1EE67-1EE6A 1EE6C-1EE72 1EE74-1EE77 1EE79-1EE7C 1EE7E",
     "1EE80-1EE89 1EE8B-1EE9B 1EEA1-1EEA3 1EEA5-1EEA9 1EEAB-1EEBB 1EEF0-1EEF1"]
  shared := .ofLines ["60C 61B 61F 640 64B-655 670 204F 2E41 FD3E-FD3F 102E0-102FB"]

def armenian : Script where
  names := ["Armn", "Armenian"]
  set := .ofLines ["531-556 559-58A 58D-58F FB13-FB17"]
  shared := .ofLines ["308"]

def avestan : Script where
  names := ["Avst", "Avestan"]
  set := .ofLines ["10B00-10B35 10B39-10B3F"]
  shared := .ofLines ["B7 2E30-2E31"]

def balinese : Script where
  names := ["Bali", "Balinese"]
  set := .ofLines ["1B00-1B4C 1B4E-1B7F"]

def bamum : Script where
  names := ["Bamu", "Bamum"]
  set := .ofLines ["A6A0-A6F7 16800-16A38"]

def bassaVah : Script where
  names := ["Bass", "Bassa_Vah"]
  set := .ofLines ["16AD0-16AED 16AF0-16AF5"]

def batak : Script where
  names := ["Batk", "Batak"]
  set := .ofLines ["1BC0-1BF3 1BFC-1BFF"]

def bengali : Script where
  names := ["Beng", "Bengali"]
  set := .ofLines
    ["980-983 985-98C 98F-990 993-9A8 9AA-9B0 9B2 9B6-9B9 9BC-9C4 9C7-9C8 9CB-9CE 9D7 9DC-9DD",
     "9DF-9E3 9E6-9FE"]
  shared := .ofLines
    ["2BC 951-952 964-965 1CD0 1CD2 1CD5-1CD6 1CD8 1CE1 1CEA 1CED 1CF2 1CF5-1CF7 A8F1"]

def bhaiksuki : Script where
  names := ["Bhks", "Bhaiksuki"]
  set := .ofLines ["11C00-11C08 11C0A-11C36 11C38-11C45 11C50-11C6C"]

def bopomofo : Script where
  names := ["Bopo", "Bopomofo"]
  set := .ofLines ["2EA-2EB 3105-312F 31A0-31BF"]
  shared := .ofLines
    ["2C7 2C9-2CB 2D9 3001-3003 3008-3011 3013-301F 302A-302D 3030 3037 30FB FE45-FE46 FF61-FF65"]

def brahmi : Script where
  names := ["Brah", "Brahmi"]
  set := .ofLines ["11000-1104D 11052-11075 1107F"]

def braille : Script where
  names := ["Brai", "Braille"]
  set := .ofLines ["2800-28FF"]

def buginese : Script where
  names := ["Bugi", "Buginese"]
  set := .ofLines ["1A00-1A1B 1A1E-1A1F"]
  shared := .ofLines ["A9CF"]

def buhid : Script where
  names := ["Buhd", "Buhid"]
  set := .ofLines ["1740-1753"]
  shared := .ofLines ["1735-1736"]

def canadianAboriginal : Script where
  names := ["Cans", "Canadian_Aboriginal"]
  set := .ofLines ["1400-167F 18B0-18F5 11AB0-11ABF"]

def carian : Script where
  names := ["Cari", "Carian"]
  set := .ofLines ["102A0-102D0"]
  shared := .ofLines ["B7 205A 205D 2E31"]

def caucasianAlbanian : Script where
  names := ["Aghb", "Caucasian_Albanian"]
  set := .ofLines ["10530-10563 1056F"]
  shared := .ofLines ["304 331 35E"]

def chakma : Script where
  names := ["Cakm", "Chakma"]
  set := .ofLines ["11100-11134 11136-11147"]
  shared := .ofLines ["9E6-9EF 1040-1049"]

def cham : Script where
  names := ["Cham"]
  set := .ofLines ["AA00-AA36 AA40-AA4D AA50-AA59 AA5C-AA5F"]

def cherokee : Script where
  names := ["Cher", "Cherokee"]
  set := .ofLines ["13A0-13F5 13F8-13FD AB70-ABBF"]
  shared := .ofLines ["300-302 304 30B-30C 323-324 330-331"]

def chorasmian : Script where
  names := ["Chrs", "Chorasmian"]
  set := .ofLines ["10FB0-10FCB"]

def common : Script where
  names := ["Zyyy", "Common"]
  set := .ofLines
    ["0-40 5B-60 7B-A9 AB-B9 BB-BF D7 F7 2B9-2DF 2E5-2E9 2EC-2FF 374 37E 385 387 605 60C 61B 61F",
     "640 6DD 8E2 964-965 E3F FD5-FD8 10FB 16EB-16ED 1735-1736 1802-1803 1805 1CD3 1CE1 1CE9-1CEC",
     "1CEE-1CF3 1CF5-1CF7 1CFA 2000-200B 200E-2064 2066-2070 2074-207E 2080-208E 20A0-20C0",
     "2100-2125 2127-2129 212C-2131 2133-214D 214F-215F 2189-218B 2190-2429 2440-244A 2460-27FF",
     "2900-2B73 2B76-2B95 2B97-2BFF 2E00-2E5D 2FF0-3004 3006 3008-3020 3030-3037 303C-303F",
     "309B-309C 30A0 30FB-30FC 3190-319F 31C0-31E5 31EF 3220-325F 327F-32CF 32FF 3358-33FF",
     "4DC0-4DFF A700-A721 A788-A78A A830-A839 A92E A9CF AB5B AB6A-AB6B FD3E-FD3F FE10-FE19",
     "FE30-FE52 FE54-FE66 FE68-FE6B FEFF FF01-FF20 FF3B-FF40 FF5B-FF65 FF70 FF9E-FF9F FFE0-FFE6",
     "FFE8-FFEE FFF9-FFFD 10100-10102 10107-10133 10137-1013F 10190-1019C 101D0-101FC 102E1-102FB",
     "1BCA0-1BCA3 1CC00-1CCF9 1CD00-1CEB3 1CF50-1CFC3 1D000-1D0F5 1D100-1D126 1D129-1D166",
     "1D16A-1D17A 1D183-1D184 1D18C-1D1A9 1D1AE-1D1EA 1D2C0-1D2D3 1D2E0-1D2F3 1D300-1D356",
     "1D360-1D378 1D400-1D454 1D456-1D49C 1D49E-1D49F 1D4A2 1D4A5-1D4A6 1D4A9-1D4AC 1D4AE-1D4B9",
     "1D4BB 1D4BD-1D4C3 1D4C5-1D505 1D507-1D50A 1D50D-1D514 1D516-1D51C 1D51E-1D539 1D53B-1D53E",
     "1D540-1D544 1D546 1D54A-1D550 1D552-1D6A5 1D6A8-1D7CB 1D7CE-1D7FF 1EC71-1ECB4 1ED01-1ED3D",
     "1F000-1F02B 1F030-1F093 1F0A0-1F0AE 1F0B1-1F0BF 1F0C1-1F0CF 1F0D1-1F0F5 1F100-1F1AD",
     "1F1E6-1F1FF 1F201-1F202 1F210-1F23B 1F240-1F248 1F250-1F251 1F260-1F265 1F300-1F6D7",
     "1F6DC-1F6EC 1F6F0-1F6FC 1F700-1F776 1F77B-1F7D9 1F7E0-1F7EB 1F7F0 1F800-1F80B 1F810-1F847",
     "1F850-1F859 1F860-1F887 1F890-1F8AD 1F8B0-1F8BB 1F8C0-1F8C1 1F900-1FA53 1FA60-1FA6D",
     "1FA70-1FA7C 1FA80-1FA89 1FA8F-1FAC6 1FACE-1FADC 1FADF-1FAE9 1FAF0-1FAF8 1FB00-1FB92",
     "1FB94-1FBF9 E0001 E0020-E007F"]

def coptic : Script where
  names := ["Copt", "Qaac", "Coptic"]
  set := .ofLines ["3E2-3EF 2C80-2CF3 2CF9-2CFF"]
  shared := .ofLines ["B7 300 304-305 307 374-375 2E17 102E0-102FB"]

def cuneiform : Script where
  names := ["Xsux", "Cuneiform"]
  set := .ofLines ["12000-12399 12400-1246E 12470-12474 12480-12543"]

def cypriot : Script where
  names := ["Cprt", "Cypriot"]
  set := .ofLines ["10800-10805 10808 1080A-10835 10837-10838 1083C 1083F"]
  shared := .ofLines ["10100-10102 10107-10133 10137-1013F"]

def cyproMinoan : Script where
  names := ["Cpmn", "Cypro_Minoan"]
  set := .ofLines ["12F90-12FF2"]
  shared := .ofLines ["10100-10101"]

def cyrillic : Script where
  names := ["Cyrl", "Cyrillic"]
  set := .ofLines
    ["400-484 487-52F 1C80-1C8A 1D2B 1D78 2DE0-2DFF A640-A69F FE2E-FE2F 1E030-1E06D 1E08F"]
  shared := .ofLines ["2BC 300-302 304-308/2 30B 311 485-486 1DF8 2E43"]

def deseret : Script where
  names := ["Dsrt", "Deseret"]
  set := .ofLines ["10400-1044F"]

def devanagari : Script where
  names := ["Deva", "Devanagari"]
  set := .ofLines ["900-950 955-963 966-97F A8E0-A8FF 11B00-11B09"]
  shared := .ofLines ["2BC 951-952 964-965 1CD0-1CF6 1CF8-1CF9 20F0 A830-A839"]

def divesAkuru : Script where
  names := ["Diak", "Dives_Akuru"]
  set := .ofLines
    ["11900-11906 11909 1190C-11913 11915-11916 11918-11935 11937-11938 1193B-11946 11950-11959"]

def dogra : Script where
  names := ["Dogr", "Dogra"]
  set := .ofLines ["11800-1183B"]
  shared := .ofLines ["964-96F A830-A839"]

def duployan : Script where
  names := ["Dupl", "Duployan"]
  set := .ofLines ["1BC00-1BC6A 1BC70-1BC7C 1BC80-1BC88 1BC90-1BC99 1BC9C-1BC9F"]
  shared := .ofLines ["B7 307-308 30A 323-324 2E3C 1BCA0-1BCA3"]

def egyptianHieroglyphs : Script where
  names := ["Egyp", "Egyptian_Hieroglyphs"]
  set := .ofLines ["13000-13455 13460-143FA"]

def elbasan : Script where
  names := ["Elba", "Elbasan"]
  set := .ofLines ["10500-10527"]
  shared := .ofLines ["B7 305"]

def elymaic : Script where
  names := ["Elym", "Elymaic"]
  set := .ofLines ["10FE0-10FF6"]

def ethiopic : Script where
  names := ["Ethi", "Ethiopic"]
  set := .ofLines
    ["1200-1248 124A-124D 1250-1256 1258 125A-125D 1260-1288 128A-128D 1290-12B0 12B2-12B5",
     "12B8-12BE 12C0 12C2-12C5 12C8-12D6 12D8-1310 1312-1315 1318-135A 135D-137C 1380-1399",
     "2D80-2D96 2DA0-2DA6 2DA8-2DAE 2DB0-2DB6 2DB8-2DBE 2DC0-2DC6 2DC8-2DCE 2DD0-2DD6 2DD8-2DDE",
     "AB01-AB06 AB09-AB0E AB11-AB16 AB20-AB26 AB28-AB2E 1E7E0-1E7E6 1E7E8-1E7EB 1E7ED-1E7EE",
     "1E7F0-1E7FE"]
  shared := .ofLines ["30E"]

def garay : Script where
  names := ["Gara", "Garay"]
  set := .ofLines ["10D40-10D65 10D69-10D85 10D8E-10D8F"]
  shared := .ofLines ["60C 61B 61F"]

def georgian : Script where
  names := ["Geor", "Georgian"]
  set := .ofLines
    ["10A0-10C5 10C7 10CD 10D0-10FA 10FC-10FF 1C90-1CBA 1CBD-1CBF 2D00-2D25 2D27 2D2D"]
  shared := .ofLines ["B7 589 10FB 205A 2E31"]

def glagolitic : Script where
  names := ["Glag", "Glagolitic"]
  set := .ofLines ["2C00-2C5F 1E000-1E006 1E008-1E018 1E01B-1E021 1E023-1E024 1E026-1E02A"]
  shared := .ofLines ["B7 303 305 484 487 589 10FB 205A 2E43 A66F"]

def gothic : Script where
  names := ["Goth", "Gothic"]
  set := .ofLines ["10330-1034A"]
  shared := .ofLines ["B7 304-305 308 331"]

def grantha : Script where
  names := ["Gran", "Grantha"]
  set := .ofLines
    ["11300-11303 11305-1130C 1130F-11310 11313-11328 1132A-11330 11332-11333 11335-11339",
     "1133C-11344 11347-11348 1134B-1134D 11350 11357 1135D-11363 11366-1136C 11370-11374"]
  shared := .ofLines
    ["951-952 964-965 BE6-BF3 1CD0 1CD2-1CD3 1CF2-1CF4 1CF8-1CF9 20F0 1133B 11FD0-11FD1 11FD3"]

def greek : Script where
  names := ["Grek", "Greek"]
  set := .ofLines
    ["370-373 375-377 37A-37D 37F 384 386 388-38A 38C 38E-3A1 3A3-3E1 3F0-3FF 1D26-1D2A 1D5D-1D61",
     "1D66-1D6A 1DBF 1F00-1F15 1F18-1F1D 1F20-1F45 1F48-1F4D 1F50-1F57 1F59-1F5D/2 1F5F-1F7D",
     "1F80-1FB4 1FB6-1FC4 1FC6-1FD3 1FD6-1FDB 1FDD-1FEF 1FF2-1FF4 1FF6-1FFE 2126 AB65 10140-1018E",
     "101A0 1D200-1D245"]
  shared := .ofLines ["B7 300-301 304-308/2 313 342 345 374 1DC0-1DC1 205D"]

def gujarati : Script where
  names := ["Gujr", "Gujarati"]
  set := .ofLines
    ["A81-A83 A85-A8D A8F-A91 A93-AA8 AAA-AB0 AB2-AB3 AB5-AB9 ABC-AC5 AC7-AC9 ACB-ACD AD0 AE0-AE3",
     "AE6-AF1 AF9-AFF"]
  shared := .ofLines ["951-952 964-965 A830-A839"]

def gunjalaGondi : Script where
  names := ["Gong", "Gunjala_Gondi"]
  set := .ofLines
    ["11D60-11D65 11D67-11D68 11D6A-11D8E 11D90-11D91 11D93-11D98 11DA0-11DA9"]
  shared := .ofLines ["B7 964-965"]

def gurmukhi : Script where
  names := ["Guru", "Gurmukhi"]
  set := .ofLines
    ["A01-A03 A05-A0A A0F-A10 A13-A28 A2A-A30 A32-A33 A35-A36 A38-A39 A3C A3E-A42 A47-A48 A4B-A4D",
     "A51 A59-A5C A5E A66-A76"]
  shared := .ofLines ["951-952 964-965 A830-A839"]

def gurungKhema : Script where
  names := ["Gukh", "Gurung_Khema"]
  set := .ofLines ["16100-16139"]
  shared := .ofLines ["965"]

/-- The scripts of this module. -/
def allAtoG : List Script :=
  [adlam, ahom, anatolianHieroglyphs, arabic, armenian, avestan, balinese, bamum, bassaVah,
   batak, bengali, bhaiksuki, bopomofo, brahmi, braille, buginese, buhid, canadianAboriginal,
   carian, caucasianAlbanian, chakma, cham, cherokee, chorasmian, common, coptic, cuneiform,
   cypriot, cyproMinoan, cyrillic, deseret, devanagari, divesAkuru, dogra, duployan,
   egyptianHieroglyphs, elbasan, elymaic, ethiopic, garay, georgian, glagolitic, gothic,
   grantha, greek, gujarati, gunjalaGondi, gurmukhi, gurungKhema]

end CosmeticFilter.Unicode.Script
