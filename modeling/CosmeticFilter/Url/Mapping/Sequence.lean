/-
Characters that stand for several others in domains.

A line has the code point of a first character, and then what it and the characters after it
stand for: code points joined by `+`.  A full stop passes over a character.
-/
import CosmeticFilter.Text.Hexadecimal

namespace CosmeticFilter.Url.Mapping

open CosmeticFilter.Text

/-- Forms of Latin, Greek and Armenian letters, of numbers and of signs. -/
def europeanSequences : List String :=
  ["A8 20+308",
   "AF 20+304",
   "B4 20+301",
   "B8 20+327",
   "BC 31+2044+34 31+2044+32 33+2044+34",
   "130 69+307 . 69+6A 69+6A",
   "13F 6C+B7 6C+B7",
   "149 2BC+6E",
   "1C4 64+17E 64+17E 64+17E 6C+6A 6C+6A 6C+6A 6E+6A 6E+6A 6E+6A",
   "1F1 64+7A 64+7A 64+7A",
   "2D8 20+306 20+307 20+30A 20+328 20+303 20+30B",
   "37A 20+3B9",
   "384 20+301 20+308+301",
   "587 565+582",
   "675 627+674 648+674 6C7+674 64A+674",
   "E33 E4D+E32",
   "EB3 ECD+EB2",
   "EDC EAB+E99 EAB+EA1",
   "F77 FB2+F71+F80 . FB3+F71+F80",
   "1E9A 61+2BE",
   "1F80 1F00+3B9 1F01+3B9 1F02+3B9 1F03+3B9 1F04+3B9 1F05+3B9 1F06+3B9 1F07+3B9 1F00+3B9 1F01+3B9",
   "1F8A 1F02+3B9 1F03+3B9 1F04+3B9 1F05+3B9 1F06+3B9 1F07+3B9 1F20+3B9 1F21+3B9 1F22+3B9 1F23+3B9",
   "1F94 1F24+3B9 1F25+3B9 1F26+3B9 1F27+3B9 1F20+3B9 1F21+3B9 1F22+3B9 1F23+3B9 1F24+3B9 1F25+3B9",
   "1F9E 1F26+3B9 1F27+3B9 1F60+3B9 1F61+3B9 1F62+3B9 1F63+3B9 1F64+3B9 1F65+3B9 1F66+3B9 1F67+3B9",
   "1FA8 1F60+3B9 1F61+3B9 1F62+3B9 1F63+3B9 1F64+3B9 1F65+3B9 1F66+3B9 1F67+3B9 . . 1F70+3B9",
   "1FB3 3B1+3B9 3AC+3B9 . . 1FB6+3B9",
   "1FBC 3B1+3B9 20+313 . 20+313 20+342 20+308+342 1F74+3B9 3B7+3B9 3AE+3B9 . . 1FC6+3B9",
   "1FCC 3B7+3B9 20+313+300 20+313+301 20+313+342",
   "1FDD 20+314+300 20+314+301 20+314+342",
   "1FED 20+308+300 20+308+301",
   "1FF2 1F7C+3B9 3C9+3B9 3CE+3B9 . . 1FF6+3B9",
   "1FFC 3C9+3B9 20+301 20+314",
   "2017 20+333",
   "2033 2032+2032 2032+2032+2032 . 2035+2035 2035+2035+2035",
   "203C 21+21 . 20+305",
   "2047 3F+3F 3F+21 21+3F",
   "2057 2032+2032+2032+2032",
   "20A8 72+73",
   "2100 61+2F+63 61+2F+73 . B0+63 . 63+2F+6F 63+2F+75 . . B0+66",
   "2116 6E+6F",
   "2120 73+6D 74+65+6C 74+6D",
   "213B 66+61+78",
   "2150 31+2044+37 31+2044+39 31+2044+31+30 31+2044+33 32+2044+33 31+2044+35 32+2044+35",
   "2157 33+2044+35 34+2044+35 31+2044+36 35+2044+36 31+2044+38 33+2044+38 35+2044+38 37+2044+38",
   "215F 31+2044 . 69+69 69+69+69 69+76 . 76+69 76+69+69 76+69+69+69 69+78 . 78+69 78+69+69",
   "2171 69+69 69+69+69 69+76 . 76+69 76+69+69 76+69+69+69 69+78 . 78+69 78+69+69",
   "2189 30+2044+33",
   "222C 222B+222B 222B+222B+222B . 222E+222E 222E+222E+222E",
   "2469 31+30 31+31 31+32 31+33 31+34 31+35 31+36 31+37 31+38 31+39 32+30 28+31+29 28+32+29",
   "2476 28+33+29 28+34+29 28+35+29 28+36+29 28+37+29 28+38+29 28+39+29 28+31+30+29 28+31+31+29",
   "247F 28+31+32+29 28+31+33+29 28+31+34+29 28+31+35+29 28+31+36+29 28+31+37+29 28+31+38+29",
   "2486 28+31+39+29 28+32+30+29",
   "249C 28+61+29 28+62+29 28+63+29 28+64+29 28+65+29 28+66+29 28+67+29 28+68+29 28+69+29 28+6A+29",
   "24A6 28+6B+29 28+6C+29 28+6D+29 28+6E+29 28+6F+29 28+70+29 28+71+29 28+72+29 28+73+29 28+74+29",
   "24B0 28+75+29 28+76+29 28+77+29 28+78+29 28+79+29 28+7A+29",
   "2A0C 222B+222B+222B+222B",
   "2A74 3A+3A+3D 3D+3D 3D+3D+3D"]

/-- Numbers, kana and Chinese characters in brackets and in circles. -/
def enclosedSequences : List String :=
  ["309B 20+3099 20+309A . . 3088+308A",
   "30FF 30B3+30C8",
   "3200 28+1100+29 28+1102+29 28+1103+29 28+1105+29 28+1106+29 28+1107+29 28+1109+29 28+110B+29",
   "3208 28+110C+29 28+110E+29 28+110F+29 28+1110+29 28+1111+29 28+1112+29 28+AC00+29 28+B098+29",
   "3210 28+B2E4+29 28+B77C+29 28+B9C8+29 28+BC14+29 28+C0AC+29 28+C544+29 28+C790+29 28+CC28+29",
   "3218 28+CE74+29 28+D0C0+29 28+D30C+29 28+D558+29 28+C8FC+29 28+C624+C804+29 28+C624+D6C4+29 .",
   "3220 28+4E00+29 28+4E8C+29 28+4E09+29 28+56DB+29 28+4E94+29 28+516D+29 28+4E03+29 28+516B+29",
   "3228 28+4E5D+29 28+5341+29 28+6708+29 28+706B+29 28+6C34+29 28+6728+29 28+91D1+29 28+571F+29",
   "3230 28+65E5+29 28+682A+29 28+6709+29 28+793E+29 28+540D+29 28+7279+29 28+8CA1+29 28+795D+29",
   "3238 28+52B4+29 28+4EE3+29 28+547C+29 28+5B66+29 28+76E3+29 28+4F01+29 28+8CC7+29 28+5354+29",
   "3240 28+796D+29 28+4F11+29 28+81EA+29 28+81F3+29",
   "3250 70+74+65 32+31 32+32 32+33 32+34 32+35 32+36 32+37 32+38 32+39 33+30 33+31 33+32 33+33",
   "325E 33+34 33+35",
   "327C CC38+ACE0 C8FC+C758",
   "32B1 33+36 33+37 33+38 33+39 34+30 34+31 34+32 34+33 34+34 34+35 34+36 34+37 34+38 34+39 35+30",
   "32C0 31+6708 32+6708 33+6708 34+6708 35+6708 36+6708 37+6708 38+6708 39+6708 31+30+6708",
   "32CA 31+31+6708 31+32+6708 68+67 65+72+67 65+76 6C+74+64",
   "32FF 4EE4+548C 30A2+30D1+30FC+30C8 30A2+30EB+30D5+30A1 30A2+30F3+30DA+30A2 30A2+30FC+30EB"]

/-- Words and units in a square. -/
def squaredSequences : List String :=
  ["3304 30A4+30CB+30F3+30B0 30A4+30F3+30C1 30A6+30A9+30F3 30A8+30B9+30AF+30FC+30C9",
   "3308 30A8+30FC+30AB+30FC 30AA+30F3+30B9 30AA+30FC+30E0 30AB+30A4+30EA 30AB+30E9+30C3+30C8",
   "330D 30AB+30ED+30EA+30FC 30AC+30ED+30F3 30AC+30F3+30DE 30AE+30AC 30AE+30CB+30FC",
   "3312 30AD+30E5+30EA+30FC 30AE+30EB+30C0+30FC 30AD+30ED 30AD+30ED+30B0+30E9+30E0",
   "3316 30AD+30ED+30E1+30FC+30C8+30EB 30AD+30ED+30EF+30C3+30C8 30B0+30E9+30E0",
   "3319 30B0+30E9+30E0+30C8+30F3 30AF+30EB+30BC+30A4+30ED 30AF+30ED+30FC+30CD 30B1+30FC+30B9",
   "331D 30B3+30EB+30CA 30B3+30FC+30DD 30B5+30A4+30AF+30EB 30B5+30F3+30C1+30FC+30E0",
   "3321 30B7+30EA+30F3+30B0 30BB+30F3+30C1 30BB+30F3+30C8 30C0+30FC+30B9 30C7+30B7 30C9+30EB",
   "3327 30C8+30F3 30CA+30CE 30CE+30C3+30C8 30CF+30A4+30C4 30D1+30FC+30BB+30F3+30C8 30D1+30FC+30C4",
   "332D 30D0+30FC+30EC+30EB 30D4+30A2+30B9+30C8+30EB 30D4+30AF+30EB 30D4+30B3 30D3+30EB",
   "3332 30D5+30A1+30E9+30C3+30C9 30D5+30A3+30FC+30C8 30D6+30C3+30B7+30A7+30EB 30D5+30E9+30F3",
   "3336 30D8+30AF+30BF+30FC+30EB 30DA+30BD 30DA+30CB+30D2 30D8+30EB+30C4 30DA+30F3+30B9",
   "333B 30DA+30FC+30B8 30D9+30FC+30BF 30DD+30A4+30F3+30C8 30DC+30EB+30C8 30DB+30F3 30DD+30F3+30C9",
   "3341 30DB+30FC+30EB 30DB+30FC+30F3 30DE+30A4+30AF+30ED 30DE+30A4+30EB 30DE+30C3+30CF",
   "3346 30DE+30EB+30AF 30DE+30F3+30B7+30E7+30F3 30DF+30AF+30ED+30F3 30DF+30EA",
   "334A 30DF+30EA+30D0+30FC+30EB 30E1+30AC 30E1+30AC+30C8+30F3 30E1+30FC+30C8+30EB 30E4+30FC+30C9",
   "334F 30E4+30FC+30EB 30E6+30A2+30F3 30EA+30C3+30C8+30EB 30EA+30E9 30EB+30D4+30FC",
   "3354 30EB+30FC+30D6+30EB 30EC+30E0 30EC+30F3+30C8+30B2+30F3 30EF+30C3+30C8 30+70B9 31+70B9",
   "335A 32+70B9 33+70B9 34+70B9 35+70B9 36+70B9 37+70B9 38+70B9 39+70B9 31+30+70B9 31+31+70B9",
   "3364 31+32+70B9 31+33+70B9 31+34+70B9 31+35+70B9 31+36+70B9 31+37+70B9 31+38+70B9 31+39+70B9",
   "336C 32+30+70B9 32+31+70B9 32+32+70B9 32+33+70B9 32+34+70B9 68+70+61 64+61 61+75 62+61+72",
   "3375 6F+76 70+63 64+6D 64+6D+32 64+6D+33 69+75 5E73+6210 662D+548C 5927+6B63 660E+6CBB",
   "337F 682A+5F0F+4F1A+793E 70+61 6E+61 3BC+61 6D+61 6B+61 6B+62 6D+62 67+62 63+61+6C 6B+63+61+6C",
   "338A 70+66 6E+66 3BC+66 3BC+67 6D+67 6B+67 68+7A 6B+68+7A 6D+68+7A 67+68+7A 74+68+7A 3BC+6C",
   "3396 6D+6C 64+6C 6B+6C 66+6D 6E+6D 3BC+6D 6D+6D 63+6D 6B+6D 6D+6D+32 63+6D+32 6D+32 6B+6D+32",
   "33A3 6D+6D+33 63+6D+33 6D+33 6B+6D+33 6D+2215+73 6D+2215+73+32 70+61 6B+70+61 6D+70+61",
   "33AC 67+70+61 72+61+64 72+61+64+2215+73 72+61+64+2215+73+32 70+73 6E+73 3BC+73 6D+73 70+76",
   "33B5 6E+76 3BC+76 6D+76 6B+76 6D+76 70+77 6E+77 3BC+77 6D+77 6B+77 6D+77 6B+3C9 6D+3C9 . 62+71",
   "33C4 63+63 63+64 63+2215+6B+67 . 64+62 67+79 68+61 68+70 69+6E 6B+6B 6B+6D 6B+74 6C+6D 6C+6E",
   "33D2 6C+6F+67 6C+78 6D+62 6D+69+6C 6D+6F+6C 70+68 . 70+70+6D 70+72 73+72 73+76 77+62",
   "33DE 76+2215+6D 61+2215+6D 31+65E5 32+65E5 33+65E5 34+65E5 35+65E5 36+65E5 37+65E5 38+65E5",
   "33E8 39+65E5 31+30+65E5 31+31+65E5 31+32+65E5 31+33+65E5 31+34+65E5 31+35+65E5 31+36+65E5",
   "33F0 31+37+65E5 31+38+65E5 31+39+65E5 32+30+65E5 32+31+65E5 32+32+65E5 32+33+65E5 32+34+65E5",
   "33F8 32+35+65E5 32+36+65E5 32+37+65E5 32+38+65E5 32+39+65E5 33+30+65E5 33+31+65E5 67+61+6C"]

/-- Ligatures and presentation forms. -/
def ligatures : List String :=
  ["FB00 66+66 66+69 66+6C 66+66+69 66+66+6C 73+74 73+74",
   "FB13 574+576 574+565 574+56B 57E+576 574+56D",
   "FB4F 5D0+5DC",
   "FBDD 6C7+674",
   "FBEA 626+627 626+627 626+6D5 626+6D5 626+648 626+648 626+6C7 626+6C7 626+6C6 626+6C6 626+6C8",
   "FBF5 626+6C8 626+6D0 626+6D0 626+6D0 626+649 626+649 626+649",
   "FC00 626+62C 626+62D 626+645 626+649 626+64A 628+62C 628+62D 628+62E 628+645 628+649 628+64A",
   "FC0B 62A+62C 62A+62D 62A+62E 62A+645 62A+649 62A+64A 62B+62C 62B+645 62B+649 62B+64A 62C+62D",
   "FC16 62C+645 62D+62C 62D+645 62E+62C 62E+62D 62E+645 633+62C 633+62D 633+62E 633+645 635+62D",
   "FC21 635+645 636+62C 636+62D 636+62E 636+645 637+62D 637+645 638+645 639+62C 639+645 63A+62C",
   "FC2C 63A+645 641+62C 641+62D 641+62E 641+645 641+649 641+64A 642+62D 642+645 642+649 642+64A",
   "FC37 643+627 643+62C 643+62D 643+62E 643+644 643+645 643+649 643+64A 644+62C 644+62D 644+62E",
   "FC42 644+645 644+649 644+64A 645+62C 645+62D 645+62E 645+645 645+649 645+64A 646+62C 646+62D",
   "FC4D 646+62E 646+645 646+649 646+64A 647+62C 647+645 647+649 647+64A 64A+62C 64A+62D 64A+62E",
   "FC58 64A+645 64A+649 64A+64A 630+670 631+670 649+670 20+64C+651 20+64D+651 20+64E+651",
   "FC61 20+64F+651 20+650+651 20+651+670 626+631 626+632 626+645 626+646 626+649 626+64A 628+631",
   "FC6B 628+632 628+645 628+646 628+649 628+64A 62A+631 62A+632 62A+645 62A+646 62A+649 62A+64A",
   "FC76 62B+631 62B+632 62B+645 62B+646 62B+649 62B+64A 641+649 641+64A 642+649 642+64A 643+627",
   "FC81 643+644 643+645 643+649 643+64A 644+645 644+649 644+64A 645+627 645+645 646+631 646+632",
   "FC8C 646+645 646+646 646+649 646+64A 649+670 64A+631 64A+632 64A+645 64A+646 64A+649 64A+64A",
   "FC97 626+62C 626+62D 626+62E 626+645 626+647 628+62C 628+62D 628+62E 628+645 628+647 62A+62C",
   "FCA2 62A+62D 62A+62E 62A+645 62A+647 62B+645 62C+62D 62C+645 62D+62C 62D+645 62E+62C 62E+645",
   "FCAD 633+62C 633+62D 633+62E 633+645 635+62D 635+62E 635+645 636+62C 636+62D 636+62E 636+645",
   "FCB8 637+62D 638+645 639+62C 639+645 63A+62C 63A+645 641+62C 641+62D 641+62E 641+645 642+62D",
   "FCC3 642+645 643+62C 643+62D 643+62E 643+644 643+645 644+62C 644+62D 644+62E 644+645 644+647",
   "FCCE 645+62C 645+62D 645+62E 645+645 646+62C 646+62D 646+62E 646+645 646+647 647+62C 647+645",
   "FCD9 647+670 64A+62C 64A+62D 64A+62E 64A+645 64A+647 626+645 626+647 628+645 628+647 62A+645",
   "FCE4 62A+647 62B+645 62B+647 633+645 633+647 634+645 634+647 643+644 643+645 644+645 646+645",
   "FCEF 646+647 64A+645 64A+647 640+64E+651 640+64F+651 640+650+651 637+649 637+64A 639+649",
   "FCF8 639+64A 63A+649 63A+64A 633+649 633+64A 634+649 634+64A 62D+649 62D+64A 62C+649 62C+64A",
   "FD03 62E+649 62E+64A 635+649 635+64A 636+649 636+64A 634+62C 634+62D 634+62E 634+645 634+631",
   "FD0E 633+631 635+631 636+631 637+649 637+64A 639+649 639+64A 63A+649 63A+64A 633+649 633+64A",
   "FD19 634+649 634+64A 62D+649 62D+64A 62C+649 62C+64A 62E+649 62E+64A 635+649 635+64A 636+649",
   "FD24 636+64A 634+62C 634+62D 634+62E 634+645 634+631 633+631 635+631 636+631 634+62C 634+62D",
   "FD2F 634+62E 634+645 633+647 634+647 637+645 633+62C 633+62D 633+62E 634+62C 634+62D 634+62E",
   "FD3A 637+645 638+645 627+64B 627+64B",
   "FD50 62A+62C+645 62A+62D+62C 62A+62D+62C 62A+62D+645 62A+62E+645 62A+645+62C 62A+645+62D",
   "FD57 62A+645+62E 62C+645+62D 62C+645+62D 62D+645+64A 62D+645+649 633+62D+62C 633+62C+62D",
   "FD5E 633+62C+649 633+645+62D 633+645+62D 633+645+62C 633+645+645 633+645+645 635+62D+62D",
   "FD65 635+62D+62D 635+645+645 634+62D+645 634+62D+645 634+62C+64A 634+645+62E 634+645+62E",
   "FD6C 634+645+645 634+645+645 636+62D+649 636+62E+645 636+62E+645 637+645+62D 637+645+62D",
   "FD73 637+645+645 637+645+64A 639+62C+645 639+645+645 639+645+645 639+645+649 63A+645+645",
   "FD7A 63A+645+64A 63A+645+649 641+62E+645 641+62E+645 642+645+62D 642+645+645 644+62D+645",
   "FD81 644+62D+64A 644+62D+649 644+62C+62C 644+62C+62C 644+62E+645 644+62E+645 644+645+62D",
   "FD88 644+645+62D 645+62D+62C 645+62D+645 645+62D+64A 645+62C+62D 645+62C+645 645+62E+62C",
   "FD8F 645+62E+645 . . 645+62C+62E 647+645+62C 647+645+645 646+62D+645 646+62D+649 646+62C+645",
   "FD98 646+62C+645 646+62C+649 646+645+64A 646+645+649 64A+645+645 64A+645+645 628+62E+64A",
   "FD9F 62A+62C+64A 62A+62C+649 62A+62E+64A 62A+62E+649 62A+645+64A 62A+645+649 62C+645+64A",
   "FDA6 62C+62D+649 62C+645+649 633+62E+649 635+62D+64A 634+62D+64A 636+62D+64A 644+62C+64A",
   "FDAD 644+645+64A 64A+62D+64A 64A+62C+64A 64A+645+64A 645+645+64A 642+645+64A 646+62D+64A",
   "FDB4 642+645+62D 644+62D+645 639+645+64A 643+645+64A 646+62C+62D 645+62E+64A 644+62C+645",
   "FDBB 643+645+645 644+62C+645 646+62C+62D 62C+62D+64A 62D+62C+64A 645+62C+64A 641+645+64A",
   "FDC2 628+62D+64A 643+645+645 639+62C+645 635+645+645 633+62E+64A 646+62C+64A",
   "FDF0 635+644+6D2 642+644+6D2 627+644+644+647 627+643+628+631 645+62D+645+62F 635+644+639+645",
   "FDF6 631+633+648+644 639+644+64A+647 648+633+644+645 635+644+649",
   "FDFA 635+644+649+20+627+644+644+647+20+639+644+64A+647+20+648+633+644+645",
   "FDFB 62C+644+20+62C+644+627+644+647 631+6CC+627+644",
   "FE49 20+305 20+305 20+305 20+305",
   "FE70 20+64B 640+64B 20+64C . 20+64D . 20+64E 640+64E 20+64F 640+64F 20+650 640+650 20+651",
   "FE7D 640+651 20+652 640+652",
   "FEF5 644+622 644+622 644+623 644+623 644+625 644+625 644+627 644+627",
   "FFE3 20+304"]

/-- Numbers and words with other signs around them. -/
def otherSequences : List String :=
  ["1F101 30+2C 31+2C 32+2C 33+2C 34+2C 35+2C 36+2C 37+2C 38+2C 39+2C",
   "1F110 28+61+29 28+62+29 28+63+29 28+64+29 28+65+29 28+66+29 28+67+29 28+68+29 28+69+29",
   "1F119 28+6A+29 28+6B+29 28+6C+29 28+6D+29 28+6E+29 28+6F+29 28+70+29 28+71+29 28+72+29",
   "1F122 28+73+29 28+74+29 28+75+29 28+76+29 28+77+29 28+78+29 28+79+29 28+7A+29 3014+73+3015 . .",
   "1F12D 63+64 77+7A",
   "1F14A 68+76 6D+76 73+64 73+73 70+70+76 77+63",
   "1F16A 6D+63 6D+64 6D+72",
   "1F190 64+6A",
   "1F200 307B+304B 30B3+30B3",
   "1F240 3014+672C+3015 3014+4E09+3015 3014+4E8C+3015 3014+5B89+3015 3014+70B9+3015",
   "1F245 3014+6253+3015 3014+76D7+3015 3014+52DD+3015 3014+6557+3015"]

/-- All lines. -/
def sequenceLines : List String :=
  europeanSequences ++ enclosedSequences ++ squaredSequences ++ ligatures ++ otherSequences

/-- What one word of a line stands for; none for a full stop. -/
def readSequence (word : List Char) : List Nat :=
  if word = ['.'] then [] else (word.splitOn '+').map hexNumber

/-- The characters of a line, each with those that it stands for. -/
def readLine (line : String) : List (Nat × List Nat) :=
  match line.toList.splitOn ' ' with
  | [] => []
  | start :: words =>
    (words.zipIdx.map fun (word, i) => (hexNumber start + i, readSequence word)).filter
      (!·.2.isEmpty)

/-- The characters that stand for several others, with those. -/
def sequences : List (Nat × List Nat) :=
  sequenceLines.flatMap readLine

end CosmeticFilter.Url.Mapping
