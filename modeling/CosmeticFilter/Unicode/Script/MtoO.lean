/-
The scripts whose names start with M to O.
-/
import CosmeticFilter.Unicode.NamedSet

namespace CosmeticFilter.Unicode.Script

def mahajani : Script where
  names := ["Mahj", "Mahajani"]
  set := .ofLines ["11150-11176"]
  shared := .ofLines ["B7 964-96F A830-A839"]

def makasar : Script where
  names := ["Maka", "Makasar"]
  set := .ofLines ["11EE0-11EF8"]

def malayalam : Script where
  names := ["Mlym", "Malayalam"]
  set := .ofLines ["D00-D0C D0E-D10 D12-D44 D46-D48 D4A-D4F D54-D63 D66-D7F"]
  shared := .ofLines ["951-952 964-965 1CDA 1CF2 A830-A832"]

def mandaic : Script where
  names := ["Mand", "Mandaic"]
  set := .ofLines ["840-85B 85E"]
  shared := .ofLines ["640"]

def manichaean : Script where
  names := ["Mani", "Manichaean"]
  set := .ofLines ["10AC0-10AE6 10AEB-10AF6"]
  shared := .ofLines ["640"]

def marchen : Script where
  names := ["Marc", "Marchen"]
  set := .ofLines ["11C70-11C8F 11C92-11CA7 11CA9-11CB6"]

def masaramGondi : Script where
  names := ["Gonm", "Masaram_Gondi"]
  set := .ofLines
    ["11D00-11D06 11D08-11D09 11D0B-11D36 11D3A 11D3C-11D3D 11D3F-11D47 11D50-11D59"]
  shared := .ofLines ["964-965"]

def medefaidrin : Script where
  names := ["Medf", "Medefaidrin"]
  set := .ofLines ["16E40-16E9A"]

def meeteiMayek : Script where
  names := ["Mtei", "Meetei_Mayek"]
  set := .ofLines ["AAE0-AAF6 ABC0-ABED ABF0-ABF9"]

def mendeKikakui : Script where
  names := ["Mend", "Mende_Kikakui"]
  set := .ofLines ["1E800-1E8C4 1E8C7-1E8D6"]

def meroiticCursive : Script where
  names := ["Merc", "Meroitic_Cursive"]
  set := .ofLines ["109A0-109B7 109BC-109CF 109D2-109FF"]

def meroiticHieroglyphs : Script where
  names := ["Mero", "Meroitic_Hieroglyphs"]
  set := .ofLines ["10980-1099F"]
  shared := .ofLines ["205D"]

def modi : Script where
  names := ["Modi"]
  set := .ofLines ["11600-11644 11650-11659"]
  shared := .ofLines ["A830-A839"]

def mongolian : Script where
  names := ["Mong", "Mongolian"]
  set := .ofLines ["1800-1801 1804 1806-1819 1820-1878 1880-18AA 11660-1166C"]
  shared := .ofLines ["1802-1803 1805 202F 3001-3002 3008-300B"]

def mroo : Script where
  names := ["Mroo", "Mro"]
  set := .ofLines ["16A40-16A5E 16A60-16A69 16A6E-16A6F"]

def multani : Script where
  names := ["Mult", "Multani"]
  set := .ofLines ["11280-11286 11288 1128A-1128D 1128F-1129D 1129F-112A9"]
  shared := .ofLines ["A66-A6F"]

def myanmar : Script where
  names := ["Mymr", "Myanmar"]
  set := .ofLines ["1000-109F A9E0-A9FE AA60-AA7F 116D0-116E3"]
  shared := .ofLines ["A92E"]

def nabataean : Script where
  names := ["Nbat", "Nabataean"]
  set := .ofLines ["10880-1089E 108A7-108AF"]

def nagMundari : Script where
  names := ["Nagm", "Nag_Mundari"]
  set := .ofLines ["1E4D0-1E4F9"]

def nandinagari : Script where
  names := ["Nand", "Nandinagari"]
  set := .ofLines ["119A0-119A7 119AA-119D7 119DA-119E4"]
  shared := .ofLines ["951 964-965 CE6-CEF 1CE9 1CF2 1CFA A830-A835"]

def newTaiLue : Script where
  names := ["Talu", "New_Tai_Lue"]
  set := .ofLines ["1980-19AB 19B0-19C9 19D0-19DA 19DE-19DF"]

def newa : Script where
  names := ["Newa"]
  set := .ofLines ["11400-1145B 1145D-11461"]
  shared := .ofLines ["951-952 1CD5 1CD7-1CD8 1CE2 1CE9-1CED/2"]

def nkoo : Script where
  names := ["Nkoo", "Nko"]
  set := .ofLines ["7C0-7FA 7FD-7FF"]
  shared := .ofLines ["60C 61B 61F FD3E-FD3F"]

def nushu : Script where
  names := ["Nshu", "Nushu"]
  set := .ofLines ["16FE1 1B170-1B2FB"]

def nyiakengPuachueHmong : Script where
  names := ["Hmnp", "Nyiakeng_Puachue_Hmong"]
  set := .ofLines ["1E100-1E12C 1E130-1E13D 1E140-1E149 1E14E-1E14F"]

def ogham : Script where
  names := ["Ogam", "Ogham"]
  set := .ofLines ["1680-169C"]

def olChiki : Script where
  names := ["Olck", "Ol_Chiki"]
  set := .ofLines ["1C50-1C7F"]

def olOnal : Script where
  names := ["Onao", "Ol_Onal"]
  set := .ofLines ["1E5D0-1E5FA 1E5FF"]
  shared := .ofLines ["964-965"]

def oldHungarian : Script where
  names := ["Hung", "Old_Hungarian"]
  set := .ofLines ["10C80-10CB2 10CC0-10CF2 10CFA-10CFF"]
  shared := .ofLines ["205A 205D 2E31 2E41"]

def oldItalic : Script where
  names := ["Ital", "Old_Italic"]
  set := .ofLines ["10300-10323 1032D-1032F"]

def oldNorthArabian : Script where
  names := ["Narb", "Old_North_Arabian"]
  set := .ofLines ["10A80-10A9F"]

def oldPermic : Script where
  names := ["Perm", "Old_Permic"]
  set := .ofLines ["10350-1037A"]
  shared := .ofLines ["B7 300 306-308 313 483"]

def oldPersian : Script where
  names := ["Xpeo", "Old_Persian"]
  set := .ofLines ["103A0-103C3 103C8-103D5"]

def oldSogdian : Script where
  names := ["Sogo", "Old_Sogdian"]
  set := .ofLines ["10F00-10F27"]

def oldSouthArabian : Script where
  names := ["Sarb", "Old_South_Arabian"]
  set := .ofLines ["10A60-10A7F"]

def oldTurkic : Script where
  names := ["Orkh", "Old_Turkic"]
  set := .ofLines ["10C00-10C48"]
  shared := .ofLines ["205A 2E30"]

def oldUyghur : Script where
  names := ["Ougr", "Old_Uyghur"]
  set := .ofLines ["10F70-10F89"]
  shared := .ofLines ["640 10AF2"]

def oriya : Script where
  names := ["Orya", "Oriya"]
  set := .ofLines
    ["B01-B03 B05-B0C B0F-B10 B13-B28 B2A-B30 B32-B33 B35-B39 B3C-B44 B47-B48 B4B-B4D B55-B57",
     "B5C-B5D B5F-B63 B66-B77"]
  shared := .ofLines ["951-952 964-965 1CDA 1CF2"]

def osage : Script where
  names := ["Osge", "Osage"]
  set := .ofLines ["104B0-104D3 104D8-104FB"]
  shared := .ofLines ["301 304 30B 358"]

def osmanya : Script where
  names := ["Osma", "Osmanya"]
  set := .ofLines ["10480-1049D 104A0-104A9"]

/-- The scripts of this module. -/
def allMtoO : List Script :=
  [mahajani, makasar, malayalam, mandaic, manichaean, marchen, masaramGondi, medefaidrin,
   meeteiMayek, mendeKikakui, meroiticCursive, meroiticHieroglyphs, modi, mongolian, mroo,
   multani, myanmar, nabataean, nagMundari, nandinagari, newTaiLue, newa, nkoo, nushu,
   nyiakengPuachueHmong, ogham, olChiki, olOnal, oldHungarian, oldItalic, oldNorthArabian,
   oldPermic, oldPersian, oldSogdian, oldSouthArabian, oldTurkic, oldUyghur, oriya, osage,
   osmanya]

end CosmeticFilter.Unicode.Script
