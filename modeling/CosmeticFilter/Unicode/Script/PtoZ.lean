/-
The scripts whose names start with P to Z.
-/
import CosmeticFilter.Unicode.NamedSet

namespace CosmeticFilter.Unicode.Script

def pahawhHmong : Script where
  names := ["Hmng", "Pahawh_Hmong"]
  set := .ofLines ["16B00-16B45 16B50-16B59 16B5B-16B61 16B63-16B77 16B7D-16B8F"]

def palmyrene : Script where
  names := ["Palm", "Palmyrene"]
  set := .ofLines ["10860-1087F"]

def pauCinHau : Script where
  names := ["Pauc", "Pau_Cin_Hau"]
  set := .ofLines ["11AC0-11AF8"]

def phagsPa : Script where
  names := ["Phag", "Phags_Pa"]
  set := .ofLines ["A840-A877"]
  shared := .ofLines ["1802-1803 1805 202F 3002"]

def phoenician : Script where
  names := ["Phnx", "Phoenician"]
  set := .ofLines ["10900-1091B 1091F"]

def plrd : Script where
  names := ["Miao", "Plrd"]
  set := .ofLines ["16F00-16F4A 16F4F-16F87 16F8F-16F9F"]

def psalterPahlavi : Script where
  names := ["Phlp", "Psalter_Pahlavi"]
  set := .ofLines ["10B80-10B91 10B99-10B9C 10BA9-10BAF"]
  shared := .ofLines ["640"]

def rejang : Script where
  names := ["Rjng", "Rejang"]
  set := .ofLines ["A930-A953 A95F"]

def runic : Script where
  names := ["Runr", "Runic"]
  set := .ofLines ["16A0-16EA 16EE-16F8"]
  shared := .ofLines ["16EB-16ED"]

def samaritan : Script where
  names := ["Samr", "Samaritan"]
  set := .ofLines ["800-82D 830-83E"]
  shared := .ofLines ["2E31"]

def saurashtra : Script where
  names := ["Saur", "Saurashtra"]
  set := .ofLines ["A880-A8C5 A8CE-A8D9"]

def sharada : Script where
  names := ["Shrd", "Sharada"]
  set := .ofLines ["11180-111DF"]
  shared := .ofLines ["951 1CD7 1CD9 1CDC-1CDD 1CE0 1CEA 1CED A830-A835 A838"]

def shavian : Script where
  names := ["Shaw", "Shavian"]
  set := .ofLines ["10450-1047F"]
  shared := .ofLines ["B7"]

def siddham : Script where
  names := ["Sidd", "Siddham"]
  set := .ofLines ["11580-115B5 115B8-115DD"]

def signWriting : Script where
  names := ["Sgnw", "SignWriting"]
  set := .ofLines ["1D800-1DA8B 1DA9B-1DA9F 1DAA1-1DAAF"]

def sinhala : Script where
  names := ["Sinh", "Sinhala"]
  set := .ofLines
    ["D81-D83 D85-D96 D9A-DB1 DB3-DBB DBD DC0-DC6 DCA DCF-DD4 DD6 DD8-DDF DE6-DEF DF2-DF4",
     "111E1-111F4"]
  shared := .ofLines ["964-965 1CF2"]

def sogdian : Script where
  names := ["Sogd", "Sogdian"]
  set := .ofLines ["10F30-10F59"]
  shared := .ofLines ["640"]

def soraSompeng : Script where
  names := ["Sora", "Sora_Sompeng"]
  set := .ofLines ["110D0-110E8 110F0-110F9"]

def soyombo : Script where
  names := ["Soyo", "Soyombo"]
  set := .ofLines ["11A50-11AA2"]

def sundanese : Script where
  names := ["Sund", "Sundanese"]
  set := .ofLines ["1B80-1BBF 1CC0-1CC7"]

def sunuwar : Script where
  names := ["Sunu", "Sunuwar"]
  set := .ofLines ["11BC0-11BE1 11BF0-11BF9"]
  shared := .ofLines ["300-301 303 30D 310 32D 331"]

def sylotiNagri : Script where
  names := ["Sylo", "Syloti_Nagri"]
  set := .ofLines ["A800-A82C"]
  shared := .ofLines ["964-965 9E6-9EF"]

def syriac : Script where
  names := ["Syrc", "Syriac"]
  set := .ofLines ["700-70D 70F-74A 74D-74F 860-86A"]
  shared := .ofLines
    ["303-304 307-308 30A 323-325 32D-32E 330-331 60C 61B-61C 61F 640 64B-655 670 1DF8 1DFA"]

def tagalog : Script where
  names := ["Tglg", "Tagalog"]
  set := .ofLines ["1700-1715 171F"]
  shared := .ofLines ["1735-1736"]

def tagbanwa : Script where
  names := ["Tagb", "Tagbanwa"]
  set := .ofLines ["1760-176C 176E-1770 1772-1773"]
  shared := .ofLines ["1735-1736"]

def taiLe : Script where
  names := ["Tale", "Tai_Le"]
  set := .ofLines ["1950-196D 1970-1974"]
  shared := .ofLines ["300-301 307-308 30C 1040-1049"]

def taiTham : Script where
  names := ["Lana", "Tai_Tham"]
  set := .ofLines ["1A20-1A5E 1A60-1A7C 1A7F-1A89 1A90-1A99 1AA0-1AAD"]

def taiViet : Script where
  names := ["Tavt", "Tai_Viet"]
  set := .ofLines ["AA80-AAC2 AADB-AADF"]

def takri : Script where
  names := ["Takr", "Takri"]
  set := .ofLines ["11680-116B9 116C0-116C9"]
  shared := .ofLines ["964-965 A830-A839"]

def tamil : Script where
  names := ["Taml", "Tamil"]
  set := .ofLines
    ["B82-B83 B85-B8A B8E-B90 B92-B95 B99-B9A B9C B9E-B9F BA3-BA4 BA8-BAA BAE-BB9 BBE-BC2 BC6-BC8",
     "BCA-BCD BD0 BD7 BE6-BFA 11FC0-11FF1 11FFF"]
  shared := .ofLines ["951-952 964-965 1CDA A8F3 11301 11303 1133B-1133C"]

def tangsa : Script where
  names := ["Tnsa", "Tangsa"]
  set := .ofLines ["16A70-16ABE 16AC0-16AC9"]

def tangut : Script where
  names := ["Tang", "Tangut"]
  set := .ofLines ["16FE0 17000-187F7 18800-18AFF 18D00-18D08"]
  shared := .ofLines ["2FF0-2FFF 31EF"]

def telugu : Script where
  names := ["Telu", "Telugu"]
  set := .ofLines
    ["C00-C0C C0E-C10 C12-C28 C2A-C39 C3C-C44 C46-C48 C4A-C4D C55-C56 C58-C5A C5D C60-C63 C66-C6F",
     "C77-C7F"]
  shared := .ofLines ["951-952 964-965 1CD5-1CD6 1CD8 1CDA 1CF2"]

def thaana : Script where
  names := ["Thaa", "Thaana"]
  set := .ofLines ["780-7B1"]
  shared := .ofLines ["60C 61B-61C 61F 660-669 FDF2 FDFD"]

def thai : Script where
  names := ["Thai"]
  set := .ofLines ["E01-E3A E40-E5B"]
  shared := .ofLines ["2BC 2D7 303 331"]

def tibetan : Script where
  names := ["Tibt", "Tibetan"]
  set := .ofLines ["F00-F47 F49-F6C F71-F97 F99-FBC FBE-FCC FCE-FD4 FD9-FDA"]
  shared := .ofLines ["3008-300B"]

def tifinagh : Script where
  names := ["Tfng", "Tifinagh"]
  set := .ofLines ["2D30-2D67 2D6F-2D70 2D7F"]
  shared := .ofLines ["302 304 306-309 323"]

def tirhuta : Script where
  names := ["Tirh", "Tirhuta"]
  set := .ofLines ["11480-114C7 114D0-114D9"]
  shared := .ofLines ["951-952 964-965 1CD5 1CE2 1CF2 A830-A839"]

def todhri : Script where
  names := ["Todr", "Todhri"]
  set := .ofLines ["105C0-105F3"]
  shared := .ofLines ["301 304 307 311 313 35E"]

def toto : Script where
  names := ["Toto"]
  set := .ofLines ["1E290-1E2AE"]
  shared := .ofLines ["2BC"]

def tuluTigalari : Script where
  names := ["Tutg", "Tulu_Tigalari"]
  set := .ofLines
    ["11380-11389 1138B 1138E 11390-113B5 113B7-113C0 113C2 113C5 113C7-113CA 113CC-113D5",
     "113D7-113D8 113E1-113E2"]
  shared := .ofLines ["CE6-CEF 1CF2 1CF4 A830-A835 A8F1"]

def ugaritic : Script where
  names := ["Ugar", "Ugaritic"]
  set := .ofLines ["10380-1039D 1039F"]

def vaii : Script where
  names := ["Vaii", "Vai"]
  set := .ofLines ["A500-A62B"]

def vithkuqi : Script where
  names := ["Vith", "Vithkuqi"]
  set := .ofLines
    ["10570-1057A 1057C-1058A 1058C-10592 10594-10595 10597-105A1 105A3-105B1 105B3-105B9",
     "105BB-105BC"]

def wancho : Script where
  names := ["Wcho", "Wancho"]
  set := .ofLines ["1E2C0-1E2F9 1E2FF"]

def warangCiti : Script where
  names := ["Wara", "Warang_Citi"]
  set := .ofLines ["118A0-118F2 118FF"]

def yezidi : Script where
  names := ["Yezi", "Yezidi"]
  set := .ofLines ["10E80-10EA9 10EAB-10EAD 10EB0-10EB1"]
  shared := .ofLines ["60C 61B 61F 660-669"]

def yiii : Script where
  names := ["Yiii", "Yi"]
  set := .ofLines ["A000-A48C A490-A4C6"]
  shared := .ofLines ["3001-3002 3008-3011 3014-301B 30FB FF61-FF65"]

def zanabazarSquare : Script where
  names := ["Zanb", "Zanabazar_Square"]
  set := .ofLines ["11A00-11A47"]

/-- The scripts of this module. -/
def allPtoZ : List Script :=
  [pahawhHmong, palmyrene, pauCinHau, phagsPa, phoenician, plrd, psalterPahlavi, rejang, runic,
   samaritan, saurashtra, sharada, shavian, siddham, signWriting, sinhala, sogdian, soraSompeng,
   soyombo, sundanese, sunuwar, sylotiNagri, syriac, tagalog, tagbanwa, taiLe, taiTham, taiViet,
   takri, tamil, tangsa, tangut, telugu, thaana, thai, tibetan, tifinagh, tirhuta, todhri, toto,
   tuluTigalari, ugaritic, vaii, vithkuqi, wancho, warangCiti, yezidi, yiii, zanabazarSquare]

end CosmeticFilter.Unicode.Script
