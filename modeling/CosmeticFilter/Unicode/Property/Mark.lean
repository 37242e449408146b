/-
Properties of marks and of characters without a form of their own.
-/
import CosmeticFilter.Unicode.Category
import CosmeticFilter.Unicode.NamedSet

namespace CosmeticFilter.Unicode.Property

def otherGraphemeExtend : Property where
  names := ["OGr_Ext", "Other_Grapheme_Extend"]
  set := .ofLines
    ["9BE 9D7 B3E B57 BBE BD7 CC0 CC2 CC7-CC8 CCA-CCB CD5-CD6 D3E D57 DCF DDF 1715 1734 1B35 1B3B",
     "1B3D 1B43-1B44 1BAA 1BF2-1BF3 200C 302E-302F A953 A9C0 FF9E-FF9F 111C0 11235 1133E 1134D",
     "11357 113B8 113C2 113C5 113C7-113C9 113CF 114B0 114BD 115AF 116B6 11930 1193D 11F41",
     "16FF0-16FF1 1D165-1D166 1D16D-1D172 E0020-E007F"]

def graphemeExtend : Property where
  names := ["Gr_Ext", "Grapheme_Extend"]
  set := .unions [Category.nonspacingMarks, Category.enclosingMarks, otherGraphemeExtend.set]

def graphemeBase : Property where
  names := ["Gr_Base", "Grapheme_Base"]
  set := (Category.graphic.union Category.spaceSeparators).diff graphemeExtend.set

def graphemeLink : Property where
  names := ["Gr_Link", "Grapheme_Link"]
  set := .ofLines
    ["94D 9CD A4D ACD B4D BCD C4D CCD D3B-D3C D4D DCA E3A EBA F84 1039-103A 1714-1715 1734 17D2",
     "1A60 1B44 1BAA-1BAB 1BF2-1BF3 2D7F A806 A82C A8C4 A953 A9C0 AAF6 ABED 10A3F 11046 11070",
     "1107F 110B9 11133-11134 111C0 11235 112EA 1134D 113CE-113D0 11442 114C2 115BF 1163F 116B6",
     "1172B 11839 1193D-1193E 119E0 11A34 11A47 11A99 11C3F 11D44-11D45 11D97 11F41-11F42 1612F"]

def modifierCombiningMark : Property where
  names := ["MCM", "Modifier_Combining_Mark"]
  set := .ofLines ["654-655 658 6DC 6E3 6E7-6E8 8CA-8CB 8CD-8CF 8D3 8F3"]

def diacritic : Property where
  names := ["Dia", "Diacritic"]
  set := .ofLines
    ["5E 60 A8 AF B4 B7-B8 2B0-34E 350-357 35D-362 374-375 37A 384-385 483-487 559 591-5BD 5BF",
     "5C1-5C2 5C4-5C5 5C7 64B-652 657-658 6DF-6E0 6E5-6E6 6EA-6EC 730-74A 7A6-7B0 7EB-7F5 818-819",
     "898-89F 8C9-8D2 8E3-8FE 93C 94D 951-954 971 9BC 9CD A3C A4D ABC ACD AFD-AFF B3C B4D B55 BCD",
     "C3C C4D CBC CCD D3B-D3C D4D DCA E3A E47-E4C E4E EBA EC8-ECC F18-F19 F35-F39/2 F3E-F3F",
     "F82-F84 F86-F87 FC6 1037 1039-103A 1063-1064 1069-106D 1087-108D 108F 109A-109B 135D-135F",
     "1714-1715 1734 17C9-17D3 17DD 1939-193B 1A60 1A75-1A7C 1A7F 1AB0-1ABE 1AC1-1ACB 1B34 1B44",
     "1B6B-1B73 1BAA-1BAB 1BE6 1BF2-1BF3 1C36-1C37 1C78-1C7D 1CD0-1CE8 1CED 1CF4 1CF7-1CF9",
     "1D2C-1D6A 1D9B-1DBE 1DC4-1DCF 1DF5-1DFF 1FBD 1FBF-1FC1 1FCD-1FCF 1FDD-1FDF 1FED-1FEF",
     "1FFD-1FFE 2CEF-2CF1 2E2F 302A-302F 3099-309C 30FC A66F A67C-A67D A67F A69C-A69D A6F0-A6F1",
     "A700-A721 A788-A78A A7F8-A7F9 A806 A82C A8C4 A8E0-A8F1 A92B-A92E A953 A9B3 A9C0 A9E5",
     "AA7B-AA7D AABF-AAC2 AAF6 AB5B-AB5F AB69-AB6B ABEC-ABED FB1E FE20-FE2F FF3E FF40 FF70",
     "FF9E-FF9F FFE3 102E0 10780-10785 10787-107B0 107B2-107BA 10A38-10A3A 10A3F 10AE5-10AE6",
     "10D22-10D27 10D4E 10D69-10D6D 10EFD-10EFF 10F46-10F50 10F82-10F85 11046 11070 110B9-110BA",
     "11133-11134 11173 111C0 111CA-111CC 11235-11236 112E9-112EA 1133B-1133C 1134D 11366-1136C",
     "11370-11374 113CE-113D0 113D2-113D3 113E1-113E2 11442 11446 114C2-114C3 115BF-115C0 1163F",
     "116B6-116B7 1172B 11839-1183A 1193D-1193E 11943 119E0 11A34 11A47 11A99 11C3F 11D42",
     "11D44-11D45 11D97 11F41-11F42 11F5A 13447-13455 1612F 16AF0-16AF4 16B30-16B36 16D6B-16D6C",
     "16F8F-16F9F 16FF0-16FF1 1AFF0-1AFF3 1AFF5-1AFFB 1AFFD-1AFFE 1CF00-1CF2D 1CF30-1CF46",
     "1D167-1D169 1D16D-1D172 1D17B-1D182 1D185-1D18B 1D1AA-1D1AD 1E030-1E06D 1E130-1E136 1E2AE",
     "1E2EC-1E2EF 1E5EE-1E5EF 1E8D0-1E8D6 1E944-1E946 1E948-1E94A"]

def extender : Property where
  names := ["Ext", "Extender"]
  set := .ofLines
    ["B7 2D0-2D1 640 7FA A71 AFB B55 E46 EC6 180A 1843 1AA7 1C36 1C7B 3005 3031-3035 309D-309E",
     "30FC-30FE A015 A60C A9CF A9E6 AA70 AADD AAF3-AAF4 FF70 10781-10782 10D4E 10D6A 10D6F 11237",
     "1135D 113D2-113D3 115C6-115C8 11A98 16B42-16B43 16FE0-16FE1 16FE3 1E13C-1E13D 1E5EF",
     "1E944-1E946"]

def variationSelector : Property where
  names := ["VS", "Variation_Selector"]
  set := .ofLines ["180B-180D 180F FE00-FE0F E0100-E01EF"]

def joinControl : Property where
  names := ["Join_C", "Join_Control"]
  set := .ofLines ["200C-200D"]

def bidiControl : Property where
  names := ["Bidi_C", "Bidi_Control"]
  set := .ofLines ["61C 200E-200F 202A-202E 2066-2069"]

def prependedConcatenationMark : Property where
  names := ["PCM", "Prepended_Concatenation_Mark"]
  set := .ofLines ["600-605 6DD 70F 890-891 8E2 110BD 110CD"]

def otherDefaultIgnorable : Property where
  names := ["ODI", "Other_Default_Ignorable_Code_Point"]
  set := .ofLines
    ["34F 115F-1160 17B4-17B5 2065 3164 FFA0 FFF0-FFF8 E0000 E0002-E001F E0080-E00FF E01F0-E0FFF"]

def defaultIgnorable : Property where
  names := ["DI", "Default_Ignorable_Code_Point"]
  set := (CodeSet.unions [otherDefaultIgnorable.set, Category.formats, variationSelector.set]).diff
    (prependedConcatenationMark.set.union (.ofLines ["FFF9-FFFB 13430-1343F"]))

def deprecated : Property where
  names := ["Dep", "Deprecated"]
  set := .ofLines ["149 673 F77 F79 17A3-17A4 206A-206F 2329-232A E0001"]

def noncharacter : Property where
  names := ["NChar", "Noncharacter_Code_Point"]
  set := .ofLines
    ["FDD0-FDEF FFFE-FFFF 1FFFE-1FFFF 2FFFE-2FFFF 3FFFE-3FFFF 4FFFE-4FFFF 5FFFE-5FFFF 6FFFE-6FFFF",
     "7FFFE-7FFFF 8FFFE-8FFFF 9FFFE-9FFFF AFFFE-AFFFF BFFFE-BFFFF CFFFE-CFFFF DFFFE-DFFFF",
     "EFFFE-EFFFF FFFFE-FFFFF 10FFFE-10FFFF"]

/-- The properties of this module. -/
def ofMarks : List Property :=
  [otherGraphemeExtend, graphemeExtend, graphemeBase, graphemeLink, modifierCombiningMark,
   diacritic, extender, variationSelector, joinControl, bidiControl, prependedConcatenationMark,
   otherDefaultIgnorable, defaultIgnorable, deprecated, noncharacter]

end CosmeticFilter.Unicode.Property
