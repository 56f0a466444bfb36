import ReadoutControl.Unicode.Ranges

set_option autoImplicit false

/-!
How many columns of a terminal code points take, and how they join, in version 17 of the standard.
-/

namespace ReadoutControl.Unicode

/-- Code points that take no column: marks and joiners that are drawn into another one. A code that
is not assigned takes as much as the one before it. -/
def zeroWidthRanges : CodeRanges := .ofText
    "AD 300-36F 483-489 591-5BD 5BF 5C1-5C2 5C4-5C5 5C7-5CF 605 610-61A 61C 64B-65F 670 6D6-6DC
    6DF-6E4 6E7-6E8 6EA-6ED 70F 711 730-74C 7A6-7B0 7EB-7F3 7FD 816-819 81B-823 825-827 829-82F
    859-85D 890-89F 8CA-902 93A 93C 941-948 94D 951-957 962-963 981 9BC 9BE 9C1-9C6 9CD 9D7-9DB
    9E2-9E5 9FE-A02 A3C-A3D A41-A58 A70-A71 A75 A81-A82 ABC AC1-AC8 ACD-ACF AE2-AE5 AFA-B01 B3C
    B3E-B3F B41-B46 B4D-B5B B62-B65 B82 BBE BC0 BCD-BCF BD7-BE5 C00 C04 C3C C3E-C40 C46-C57
    C62-C65 C81 CBC CBF-CC0 CC2 CC6-CDB CE2-CE5 D00-D01 D3B-D3C D3E D41-D45 D4D-D4E D57 D62-D65
    D81 DCA-DCF DD2-DD7 DDF-DE5 E31 E34-E3E E47-E4E EB1 EB4-EBC EC8-ECF F18-F19 F35 F37 F39
    F71-F7E F80-F84 F86-F87 F8D-FBD FC6 102D-1030 1032-1037 1039-103A 103D-103E 1058-1059
    105E-1060 1071-1074 1082 1085-1086 108D 109D 1160-11FF 135D-135F 1712-171E 1732-1734
    1752-175F 1772-177F 17B4-17B5 17B7-17BD 17C6 17C9-17D3 17DD-17DF 180B-180F 1885-1886 18A9
    1920-1922 1927-1928 1932 1939-193F 1A17-1A18 1A1B-1A1D 1A56 1A58-1A60 1A62 1A65-1A6C
    1A73-1A7F 1AB0-1B03 1B34-1B3D 1B42-1B44 1B6B-1B73 1B80-1B81 1BA2-1BA5 1BA8-1BAD 1BE6
    1BE8-1BE9 1BED 1BEF-1BFB 1C2C-1C33 1C36-1C3A 1CD0-1CD2 1CD4-1CE0 1CE2-1CE8 1CED 1CF4
    1CF8-1CF9 1DC0-1DFF 200B-200F 202A-202E 2060-206F 20D0-20FF 2CEF-2CF1 2DE0-2DFF 302A-302F
    3099-309A 3164 A66F-A672 A674-A67D A69E-A69F A6F0-A6F1 A802 A806 A80B A825-A826 A82C-A82F
    A8C4-A8CD A8E0-A8F1 A8FA A8FF A926-A92D A947-A951 A953-A95E A980-A982 A9B3 A9B6-A9B9
    A9BC-A9BD A9C0 A9E5 AA29-AA2E AA31-AA32 AA35-AA3F AA43 AA4C AA7C AAB0 AAB2-AAB4 AAB7-AAB8
    AABE-AABF AAC1 AAEC-AAED AAF6-AB00 ABE5 ABE8 ABED-ABEF D7B0-D7FF FB1E FE00-FE0F FE20-FE2F
    FEFF-FF00 FFA0 FFF0-FFF8 101FD-1027F 102E0 10376-1037F 10A01-10A0F 10A38-10A3F 10AE5-10AEA
    10D24-10D2F 10D69-10D6D 10EAB-10EAC 10EFA-10EFF 10F46-10F50 10F82-10F85 11001 11038-11046
    11070 11073-11074 1107F-11081 110B3-110B6 110B9-110BA 110C2-110CC 11100-11102 11127-1112B
    1112D-11135 11173 11180-11181 111B6-111BE 111C0 111C2-111C3 111C9-111CC 111CF 1122F-11231
    11234-11237 1123E 11241-1127F 112DF 112E3-112EF 11300-11301 1133B-1133C 1133E 11340
    1134D-1134F 11357-1135C 11366-1137F 113B8 113BB-113C9 113CE-113D2 113E1-113FF 11438-1143F
    11442-11444 11446 1145E 114B0 114B3-114B8 114BA 114BD 114BF-114C0 114C2-114C3 115AF
    115B2-115B7 115BC-115BD 115BF-115C0 115DC-115FF 11633-1163A 1163D 1163F-11640 116AB 116AD
    116B0-116B7 1171D 1171F 11722-11725 11727-1172F 1182F-11837 11839-1183A 11930 1193B-1193F
    11941 11943 119D4-119DB 119E0 11A01-11A0A 11A33-11A38 11A3B-11A3E 11A47-11A4F 11A51-11A56
    11A59-11A5B 11A84-11A96 11A98-11A99 11B60 11B62-11B64 11B66 11C30-11C3D 11C3F 11C92-11CA8
    11CAA-11CB0 11CB2-11CB3 11CB5-11CFF 11D31-11D4F 11D90-11D92 11D95 11D97 11EF3-11EF4
    11F00-11F02 11F36-11F3D 11F40-11F42 11F5A-11FAF 13440 13447-1345F 1611E-16129 1612D-1612F
    16AF0-16AF4 16B30-16B36 16F4F 16F8F-16F92 16FE4-16FF1 1BC9D-1BC9E 1BCA0-1CBFF 1CF00-1CF4F
    1D165-1D169 1D16D-1D182 1D185-1D18B 1D1AA-1D1AD 1D242-1D244 1DA00-1DA36 1DA3B-1DA6C 1DA75
    1DA84 1DA9B-1DEFF 1E000-1E02F 1E08F-1E0FF 1E130-1E136 1E2AE-1E2BF 1E2EC-1E2EF 1E4EC-1E4EF
    1E5EE-1E5EF 1E6E3 1E6E6 1E6EE-1E6EF 1E6F5-1E6FD 1E8D0-1E8FF 1E944-1E94A E0000-EFFFF"

/-- Wide and full-width code points. -/
def doubleWidthRanges : CodeRanges := .ofText
    "1100-115F 17A4 231A-231B 2329-232A 23E9-23EC 23F0 23F3 25FD-25FE 2614-2615 2630-2637
    2648-2653 267F 268A-268F 2693 26A1 26AA-26AB 26BD-26BE 26C4-26C5 26CE 26D4 26EA 26F2-26F3
    26F5 26FA 26FD 2705 270A-270B 2728 274C 274E 2753-2755 2757 2795-2797 27B0 27BF 2B1B-2B1C
    2B50 2B55 2E80-3029 3030-303E 3041-3098 309B-3163 3165-3247 3250-A4CF A960-A97F AC00-D7AF
    F900-FAFF FE10-FE1F FE30-FE6F FF01-FF60 FFE0-FFE7 16FE0-16FE3 16FF2-1BBFF 1D300-1D376 1F004
    1F0CF-1F0D0 1F18E 1F191-1F19A 1F200-1F320 1F32D-1F335 1F337-1F37C 1F37E-1F393 1F3A0-1F3CA
    1F3CF-1F3D3 1F3E0-1F3F0 1F3F4 1F3F8-1F43E 1F440 1F442-1F4FC 1F4FF-1F53D 1F54B-1F54E
    1F550-1F567 1F57A 1F595-1F596 1F5A4 1F5FB-1F64F 1F680-1F6C5 1F6CC 1F6D0-1F6D2 1F6D5-1F6DF
    1F6EB-1F6EF 1F6F4-1F6FF 1F7E0-1F7FF 1F90C-1F93A 1F93C-1F945 1F947-1F9FF 1FA70-1FAFF
    20000-DFFFF"

/-- Pictographs that are drawn in colour, but for skin tones and letters of flags. -/
def pictographRanges : CodeRanges := .ofText
    "231A-231B 23E9-23EC 23F0 23F3 25FD-25FE 2614-2615 2648-2653 267F 2693 26A1 26AA-26AB
    26BD-26BE 26C4-26C5 26CE 26D4 26EA 26F2-26F3 26F5 26FA 26FD 2705 270A-270B 2728 274C 274E
    2753-2755 2757 2795-2797 27B0 27BF 2B1B-2B1C 2B50 2B55 1F004 1F0CF 1F18E 1F191-1F19A 1F201
    1F21A 1F22F 1F232-1F236 1F238-1F23A 1F250-1F251 1F300-1F320 1F32D-1F335 1F337-1F37C
    1F37E-1F393 1F3A0-1F3CA 1F3CF-1F3D3 1F3E0-1F3F0 1F3F4 1F3F8-1F3FA 1F400-1F43E 1F440
    1F442-1F4FC 1F4FF-1F53D 1F54B-1F54E 1F550-1F567 1F57A 1F595-1F596 1F5A4 1F5FB-1F64F
    1F680-1F6C5 1F6CC 1F6D0-1F6D2 1F6D5-1F6D8 1F6DC-1F6DF 1F6EB-1F6EC 1F6F4-1F6FC 1F7E0-1F7EB
    1F7F0 1F90C-1F93A 1F93C-1F945 1F947-1F9FF 1FA70-1FA7C 1FA80-1FA8A 1FA8E-1FAC6 1FAC8
    1FACD-1FADC 1FADF-1FAEA 1FAEF-1FAF8"

/-- Characters that a selector after them turns into a pictograph in colour. -/
def colourSelectableRanges : CodeRanges := .ofText
    "23 2A 30-39 A9 AE 203C 2049 2122 2139 2194-2199 21A9-21AA 231A-231B 2328 23CF 23E9-23F3
    23F8-23FA 24C2 25AA-25AB 25B6 25C0 25FB-25FE 2600-2604 260E 2611 2614-2615 2618 261D 2620
    2622-2623 2626 262A 262E-262F 2638-263A 2640 2642 2648-2653 265F-2660 2663 2665-2666 2668
    267B 267E-267F 2692-2697 2699 269B-269C 26A0-26A1 26A7 26AA-26AB 26B0-26B1 26BD-26BE
    26C4-26C5 26C8 26CE-26CF 26D1 26D3-26D4 26E9-26EA 26F0-26F5 26F7-26FA 26FD 2702 2705
    2708-270D 270F 2712 2714 2716 271D 2721 2728 2733-2734 2744 2747 274C 274E 2753-2755 2757
    2763-2764 2795-2797 27A1 27B0 27BF 2934-2935 2B05-2B07 2B1B-2B1C 2B50 2B55 3030 303D 3297
    3299 1F004 1F170-1F171 1F17E-1F17F 1F202 1F21A 1F22F 1F237 1F30D-1F30F 1F315 1F31C 1F321
    1F324-1F32C 1F336 1F378 1F37D 1F393 1F396-1F397 1F399-1F39B 1F39E-1F39F 1F3A7 1F3AC-1F3AE
    1F3C2 1F3C4 1F3C6 1F3CA-1F3CE 1F3D4-1F3E0 1F3ED 1F3F3 1F3F5 1F3F7 1F408 1F415 1F41F 1F426
    1F43F 1F441-1F442 1F446-1F449 1F44D-1F44E 1F453 1F46A 1F47D 1F4A3 1F4B0 1F4B3 1F4BB 1F4BF
    1F4CB 1F4DA 1F4DF 1F4E4-1F4E6 1F4EA-1F4ED 1F4F7 1F4F9-1F4FB 1F4FD 1F503 1F50D 1F512-1F513
    1F549-1F54A 1F550-1F567 1F56F-1F570 1F573-1F579 1F587 1F58A-1F58D 1F590 1F5A5 1F5A8
    1F5B1-1F5B2 1F5BC 1F5C2-1F5C4 1F5D1-1F5D3 1F5DC-1F5DE 1F5E1 1F5E3 1F5E8 1F5EF 1F5F3 1F5FA
    1F610 1F687 1F68D 1F691 1F694 1F698 1F6AD 1F6B2 1F6B9-1F6BA 1F6BC 1F6CB 1F6CD-1F6CF
    1F6E0-1F6E5 1F6E9 1F6F0 1F6F3"

/-- Pictographs that a selector after them turns into a plain narrow sign. -/
def plainSelectableRanges : CodeRanges := .ofText
    "231A-231B 23E9-23EC 23F0 23F3 25FD-25FE 2614-2615 2648-2653 267F 2693 26A1 26AA-26AB
    26BD-26BE 26C4-26C5 26CE 26D4 26EA 26F2-26F3 26F5 26FA 26FD 2705 270A-270B 2728 274C 274E
    2753-2755 2757 2795-2797 27B0 27BF 2B1B-2B1C 2B50 2B55 1F004 1F30D-1F30F 1F315 1F31C 1F378
    1F393 1F3A7 1F3AC-1F3AE 1F3C2 1F3C4 1F3C6 1F3CA 1F3E0 1F3ED 1F408 1F415 1F41F 1F426 1F442
    1F446-1F449 1F44D-1F44E 1F453 1F46A 1F47D 1F4A3 1F4B0 1F4B3 1F4BB 1F4BF 1F4CB 1F4DA 1F4DF
    1F4E4-1F4E6 1F4EA-1F4ED 1F4F7 1F4F9-1F4FB 1F503 1F50D 1F512-1F513 1F550-1F567 1F610 1F687
    1F68D 1F691 1F694 1F698 1F6AD 1F6B2 1F6B9-1F6BA 1F6BC"

/-- Pictographs that a skin tone after them may colour. -/
def tonedRanges : CodeRanges := .ofText
    "261D 26F9 270A-270D 1F385 1F3C2-1F3C4 1F3C7 1F3CA-1F3CC 1F442-1F443 1F446-1F450 1F466-1F478
    1F47C 1F481-1F483 1F485-1F487 1F48F 1F491 1F4AA 1F574-1F575 1F57A 1F590 1F595-1F596
    1F645-1F647 1F64B-1F64F 1F6A3 1F6B4-1F6B6 1F6C0 1F6CC 1F90C 1F90F 1F918-1F91F 1F926
    1F930-1F939 1F93C-1F93E 1F977 1F9B5-1F9B6 1F9B8-1F9B9 1F9BB 1F9CD-1F9CF 1F9D1-1F9DD
    1FAC3-1FAC5 1FAF0-1FAF8"

/-- Code points without a column through which Arabic letters join. -/
def transparentRanges : CodeRanges := .ofText
    "AD 300-36F 483-489 591-5BD 5BF 5C1-5C2 5C4-5C5 5C7 610-61A 61C 64B-65F 670 6D6-6DC 6DF-6E4
    6E7-6E8 6EA-6ED 70F 711 730-74A 7A6-7B0 7EB-7F3 7FD 816-819 81B-823 825-827 829-82D 859-85B
    897-89F 8CA-8E1 8E3-902 93A 93C 941-948 94D 951-957 962-963 981 9BC 9C1-9C4 9CD 9E2-9E3 9FE
    A01-A02 A3C A41-A42 A47-A48 A4B-A4D A51 A70-A71 A75 A81-A82 ABC AC1-AC5 AC7-AC8 ACD AE2-AE3
    AFA-AFF B01 B3C B3F B41-B44 B4D B55-B56 B62-B63 B82 BC0 BCD C00 C04 C3C C3E-C40 C46-C48
    C4A-C4D C55-C56 C62-C63 C81 CBC CBF CC6 CCC-CCD CE2-CE3 D00-D01 D3B-D3C D41-D44 D4D D62-D63
    D81 DCA DD2-DD4 DD6 E31 E34-E3A E47-E4E EB1 EB4-EBC EC8-ECE F18-F19 F35 F37 F39 F71-F7E
    F80-F84 F86-F87 F8D-F97 F99-FBC FC6 102D-1030 1032-1037 1039-103A 103D-103E 1058-1059
    105E-1060 1071-1074 1082 1085-1086 108D 109D 135D-135F 1712-1714 1732-1733 1752-1753
    1772-1773 17B4-17B5 17B7-17BD 17C6 17C9-17D3 17DD 180B-180D 180F 1885-1886 18A9 1920-1922
    1927-1928 1932 1939-193B 1A17-1A18 1A1B 1A56 1A58-1A5E 1A60 1A62 1A65-1A6C 1A73-1A7C 1A7F
    1AB0-1ADD 1AE0-1AEB 1B00-1B03 1B34 1B36-1B3A 1B3C 1B42 1B6B-1B73 1B80-1B81 1BA2-1BA5
    1BA8-1BA9 1BAB-1BAD 1BE6 1BE8-1BE9 1BED 1BEF-1BF1 1C2C-1C33 1C36-1C37 1CD0-1CD2 1CD4-1CE0
    1CE2-1CE8 1CED 1CF4 1CF8-1CF9 1DC0-1DFF 200B 200E-200F 202A-202E 2060-2064 206A-206F
    20D0-20F0 2CEF-2CF1 2DE0-2DFF 302A-302D 3099-309A A66F-A672 A674-A67D A69E-A69F A6F0-A6F1
    A802 A806 A80B A825-A826 A82C A8C4-A8C5 A8E0-A8F1 A8FF A926-A92D A947-A951 A980-A982 A9B3
    A9B6-A9B9 A9BC-A9BD A9E5 AA29-AA2E AA31-AA32 AA35-AA36 AA43 AA4C AA7C AAB0 AAB2-AAB4
    AAB7-AAB8 AABE-AABF AAC1 AAEC-AAED AAF6 ABE5 ABE8 ABED FB1E FE00-FE0F FE20-FE2F FEFF 101FD
    102E0 10376-1037A 10A01-10A03 10A05-10A06 10A0C-10A0F 10A38-10A3A 10A3F 10AE5-10AE6
    10D24-10D27 10D69-10D6D 10EAB-10EAC 10EFA-10EFF 10F46-10F50 10F82-10F85 11001 11038-11046
    11070 11073-11074 1107F-11081 110B3-110B6 110B9-110BA 110C2 11100-11102 11127-1112B
    1112D-11134 11173 11180-11181 111B6-111BE 111C9-111CC 111CF 1122F-11231 11234 11236-11237
    1123E 11241 112DF 112E3-112EA 11300-11301 1133B-1133C 11340 11366-1136C 11370-11374
    113BB-113C0 113CE 113D0 113D2 113E1-113E2 11438-1143F 11442-11444 11446 1145E 114B3-114B8
    114BA 114BF-114C0 114C2-114C3 115B2-115B5 115BC-115BD 115BF-115C0 115DC-115DD 11633-1163A
    1163D 1163F-11640 116AB 116AD 116B0-116B5 116B7 1171D 1171F 11722-11725 11727-1172B
    1182F-11837 11839-1183A 1193B-1193C 1193E 11943 119D4-119D7 119DA-119DB 119E0 11A01-11A0A
    11A33-11A38 11A3B-11A3E 11A47 11A51-11A56 11A59-11A5B 11A8A-11A96 11A98-11A99 11B60
    11B62-11B64 11B66 11C30-11C36 11C38-11C3D 11C3F 11C92-11CA7 11CAA-11CB0 11CB2-11CB3
    11CB5-11CB6 11D31-11D36 11D3A 11D3C-11D3D 11D3F-11D45 11D47 11D90-11D91 11D95 11D97
    11EF3-11EF4 11F00-11F01 11F36-11F3A 11F40 11F42 11F5A 13440 13447-13455 1611E-16129
    1612D-1612F 16AF0-16AF4 16B30-16B36 16F4F 16F8F-16F92 16FE4 1BC9D-1BC9E 1BCA0-1BCA3
    1CF00-1CF2D 1CF30-1CF46 1D167-1D169 1D173-1D182 1D185-1D18B 1D1AA-1D1AD 1D242-1D244
    1DA00-1DA36 1DA3B-1DA6C 1DA75 1DA84 1DA9B-1DA9F 1DAA1-1DAAF 1E000-1E006 1E008-1E018
    1E01B-1E021 1E023-1E024 1E026-1E02A 1E08F 1E130-1E136 1E2AE 1E2EC-1E2EF 1E4EC-1E4EF
    1E5EE-1E5EF 1E6E3 1E6E6 1E6EE-1E6EF 1E6F5 1E8D0-1E8D6 1E944-1E94A E0001 E0020-E007F
    E0100-E01EF"

/-- The forms of the letter alef. -/
def alefRanges : CodeRanges := .ofText
    "622-623 625 627 671-673 675 773-774 870-882"

/-- The forms of the letter lam. -/
def lamRanges : CodeRanges := .ofText
    "644 6B5-6B8 76A 8A6 8C7"

/-- Consonants of Tifinagh. -/
def tifinaghRanges : CodeRanges := .ofText
    "2D31-2D65 2D6F"

/-- Letters of Khmer that have a form below the line. -/
def khmerRanges : CodeRanges := .ofText
    "1780-1782 1784-1787 1789-178C 178E-1793 1795-1798 179B-179D 17A0 17A2 17A7 17AB-17AC 17AF"

/-- Marks that may stand between the parts of a sign. -/
def betweenPartsRanges : CodeRanges := .ofText
    "34F 17B4-17B5 180B-180D 180F FE00-FE0F E0100-E01EF"

end ReadoutControl.Unicode
